import Interpose.Proofs.Conversion.Replacement
import Interpose.Proofs.HintText.Joining
import Interpose.Proofs.LiveHint.Converted

/-! # Subscripts of aliases

A name in the text of an annotation can stand for a type with type variables in it. Of such a type a
subscript keeps the origin alone, and puts the arguments behind it. That is the type in which the
variables are replaced by the arguments exactly if the variables, each once and in order, are all
that stands behind the origin.
-/
namespace Interpose

set_option autoImplicit false

open HintText

/-- Whether an object is a generic type whose arguments are its type variables, each once and in
order. -/
def Object.IsPlain (object : Object) : Prop :=
  ∃ typed origin arguments, object.Wraps (.generic typed origin arguments) ∧
    List.Forall₂ Wraps arguments (object.typeVariables.map .typeVariable)

namespace Conversion

open Object

variable {ns : Namespace} {places : List Place} {dotted : String} {whole : Object}
  {base : TypeExpr}

theorem subscriptForm_ordinary (hOpen : whole.typeVariables ≠ []) (count : Nat) :
    subscriptForm (some whole) count = .ordinary := by
  cases whole with
  | value | special => exact absurd rfl hOpen
  | _ => rfl

theorem ofNode_subscript_alias (hFind : (ns.find dotted).map Found.object = some whole)
    (hOpen : whole.typeVariables ≠ []) (hBase : ofName ns places dotted = .ok base)
    (nodes : List (Node Value)) :
    ofNode ns places (.subscript dotted nodes) = do
      let origin ← originOf (Text.quote dotted) base
      let types ← ofNodes ns places nodes
      return .generic origin types false := by
  rw [ofNode.eq_def]
  simp only [hFind, subscriptForm_ordinary hOpen, hBase]
  rfl

/-! ## Plain types are subscripted rightly -/

theorem convertsWith_of_isPlain (hPlain : whole.IsPlain) (hOpen : whole.typeVariables ≠ [])
    (hBase : Converts ns (.object whole) base) (text : String) :
    ∃ origin, originOf text base = .ok origin ∧
      ∀ types : List TypeExpr, types.length = whole.typeVariables.length →
        ConvertsWith ns (assigned whole.typeVariables types) whole
          (.generic origin types false) := by
  obtain ⟨typed, subject, arguments, hWraps, hArguments⟩ := hPlain
  have hCount : arguments.length = whole.typeVariables.length := by
    rw [hArguments.length_eq, List.length_map]
  have hSome : arguments ≠ [] := by
    rw [← List.length_pos_iff, hCount]
    exact List.length_pos_iff.2 hOpen
  obtain ⟨origin, _, rfl, hOrigin⟩ := (hBase.unwrapped hWraps).origin hSome
  refine ⟨origin, rfl, fun types hLength => .wrapped (.of_arguments typed hOrigin hSome ?_) hWraps⟩
  refine List.forall₂_iff_get.2 ⟨hCount.trans hLength.symm, fun i hIndex hType => ?_⟩
  have hVariable : i < whole.typeVariables.length := hCount ▸ hIndex
  have hHere := (List.forall₂_iff_get.1 hArguments).2 i hIndex (by rwa [List.length_map])
  rw [List.get_eq_getElem, List.get_eq_getElem, List.getElem_map] at hHere
  exact ConvertsWith.wrapped (.typeVariable
    (assigned_getElem (nodup_typeVariables whole) hLength hVariable hType)) hHere

/-! ## Only plain types are subscripted rightly -/

/-- A row of zeros with a one at one place, as literals. -/
def marked (count place : Nat) : List Value :=
  (List.replicate count (.int 0)).set place (.int 1)

theorem length_marked (count place : Nat) : (marked count place).length = count := by
  rw [marked, List.length_set, List.length_replicate]

theorem getElem_marked {count place i : Nat} (h : i < (marked count place).length) :
    (marked count place)[i] = if place = i then .int 1 else .int 0 := by
  simp only [marked, List.getElem_set, List.getElem_replicate]

theorem exists_of_mem_marked {count place : Nat} {v : Value} (h : v ∈ marked count place) :
    ∃ n : Int, v = .int n ∧ (Nat.toDigits 10 n.natAbs).length ≤ digitLimit := by
  rcases List.mem_or_eq_of_mem_set h with hZero | hOne
  · exact ⟨0, List.eq_of_mem_replicate hZero, by decide⟩
  · exact ⟨1, hOne, by decide⟩

theorem ofNodes_literals {values : List Value} (h : ∀ v ∈ values, ∃ n, v = .int n) :
    ofNodes ns places (values.map .literal) = .ok (values.map .literal) := by
  induction values with
  | nil => rw [List.map_nil, ofNodes, List.map_nil]
  | cons v values ih =>
    obtain ⟨⟨n, rfl⟩, hRest⟩ := List.forall_mem_cons.1 h
    have hFirst : ofNode ns places (.literal (.int n)) = .ok (.literal (.int n)) := by
      simp [ofNode]
    rw [List.map_cons, ofNodes, hFirst, ih hRest]
    rfl

/-- What a one replaces is found where the one stands among the arguments. -/
theorem wraps_of_marked {arguments : List Object} {vs : List TypeVariable} {place : Nat}
    (hVariables : typeVariablesOf arguments = vs) (hPlace : place < vs.length)
    (h : List.Forall₂ (ConvertsWith ns (assigned vs ((marked vs.length place).map .literal)))
      arguments ((marked vs.length place).map .literal)) :
    ∃ hIndex : place < arguments.length, arguments[place].Wraps (.typeVariable vs[place]) := by
  have hDistinct : vs.Nodup := hVariables ▸ nodup_typeVariablesOf arguments
  have hTypes : ((marked vs.length place).map TypeExpr.literal).length = vs.length := by
    rw [List.length_map, length_marked]
  have hOccurs : vs[place] ∈ typeVariablesOf arguments := by
    rw [hVariables]
    exact List.getElem_mem hPlace
  obtain ⟨argument, hMem, hVariable⟩ := mem_typeVariablesOf hOccurs
  obtain ⟨i, hIndex, rfl⟩ := List.getElem_of_mem hMem
  have hHere := (List.forall₂_iff_get.1 h).2 i hIndex (h.length_eq ▸ hIndex)
  simp only [List.get_eq_getElem, List.getElem_map] at hHere
  obtain ⟨v, hWraps, hReplaced⟩ := hHere.of_literal (List.ne_nil_of_mem hVariable)
  have hSame : v = vs[place] := by
    rw [← hWraps.typeVariables] at hVariable
    exact (List.mem_singleton.1 hVariable).symm
  subst hSame
  rw [assigned_getElem hDistinct hTypes hPlace (hTypes.symm ▸ hPlace), List.getElem_map,
    Option.some_inj, TypeExpr.literal.injEq, getElem_marked, getElem_marked,
    if_pos rfl] at hReplaced
  split at hReplaced
  next hEq =>
    subst hEq
    exact ⟨hIndex, hWraps⟩
  next => cases hReplaced

theorem isPlain_of_marked (hOpen : whole.typeVariables ≠ [])
    (h : ∀ place, ∃ origin,
      ConvertsWith ns
        (assigned whole.typeVariables ((marked whole.typeVariables.length place).map .literal))
        whole (.generic origin ((marked whole.typeVariables.length place).map .literal) false)) :
    whole.IsPlain := by
  have hLiterals (values : List Value) (origin : NamedType) (types : List TypeExpr)
      (v : TypeVariable) :
      assigned whole.typeVariables (values.map .literal) v
        ≠ some (.generic origin types false) := by
    intro hGeneric
    obtain ⟨_, -, hLiteral⟩ := List.mem_map.1 (mem_of_assigned hGeneric)
    cases hLiteral
  obtain ⟨origin, hFirst⟩ := h 0
  obtain ⟨typed, subject, arguments, hWraps⟩ := hFirst.of_generic hOpen (hLiterals _ _ _)
  have hVariables : typeVariablesOf arguments = whole.typeVariables := hWraps.typeVariables
  have hArguments (place : Nat) : List.Forall₂
      (ConvertsWith ns
        (assigned whole.typeVariables ((marked whole.typeVariables.length place).map .literal)))
      arguments ((marked whole.typeVariables.length place).map .literal) := by
    obtain ⟨origin, hPlace⟩ := h place
    exact (hPlace.unwrapped hWraps).arguments (hVariables ▸ hOpen)
  have hCount : arguments.length = whole.typeVariables.length := by
    rw [(hArguments 0).length_eq, List.length_map, length_marked]
  refine ⟨typed, subject, arguments, hWraps, List.forall₂_iff_get.2 ⟨?_, ?_⟩⟩
  · rw [hCount, List.length_map]
  · intro place hIndex _
    obtain ⟨_, hHere⟩ := wraps_of_marked hVariables (hCount ▸ hIndex) (hArguments place)
    simpa only [List.get_eq_getElem, List.getElem_map] using hHere

theorem converts_of_ofName (hFind : (ns.find dotted).map Found.object = some whole)
    (hBase : ofName ns places dotted = .ok base) : Converts ns (.object whole) base := by
  obtain ⟨found, hFound, rfl⟩ := Option.map_eq_some_iff.1 hFind
  cases converts_ofName places dotted hBase with
  | unbound hUnbound => cases hFound.symm.trans hUnbound
  | found hFind h =>
    cases hFound.symm.trans hFind
    exact h

theorem length_of_ofNodes {nodes : List (Node Value)} {types : List TypeExpr}
    (h : ofNodes ns places nodes = .ok types) : types.length = nodes.length := by
  obtain ⟨parts, rfl, rfl, -⟩ := converts_ofNodes places nodes h
  rw [List.length_map, List.length_map]

theorem parse_marked (hDotted : Node.IsDotted dotted) (count place : Nat) :
    HintText.parse (Node.subscript dotted ((marked count place).map .literal)).written
      = .ok (.subscript dotted ((marked count place).map .literal)) := by
  refine parse_written ⟨hDotted, Node.areHints_iff.2 (List.forall_mem_map.2 fun v hMem => ?_)⟩
  obtain ⟨n, rfl, hDigits⟩ := exists_of_mem_marked hMem
  exact hDigits

end Conversion

open Conversion in
/-- A subscript in a text keeps of the type that its name stands for the origin alone, and not the
arguments, the members of a union or the mark of a nullable type; where there is no origin it fails.
So it is converted to the type with the arguments in the places of the type variables, for all
arguments there may be, exactly if the name stands for a plain type. -/
theorem subscript_keeps_origin {ns : Namespace} {dotted : String} {whole : Object} {base : TypeExpr}
    (hDotted : Node.IsDotted dotted) (hFind : (ns.find dotted).map Found.object = some whole)
    (hOpen : whole.typeVariables ≠ []) (hBase : ofName ns ns.places dotted = .ok base) :
    (∀ text nodes, HintText.parse text = .ok (.subscript dotted nodes) →
      (Object.value (.str text)).toType ns = do
        let origin ← originOf (Text.quote dotted) base
        let types ← ofNodes ns ns.places nodes
        return .generic origin types false) ∧
    ((∀ text nodes types, HintText.parse text = .ok (.subscript dotted nodes) →
        nodes.length = whole.typeVariables.length → ofNodes ns ns.places nodes = .ok types →
        ∃ t, (Object.value (.str text)).toType ns = .ok t ∧
          ConvertsWith ns (assigned whole.typeVariables types) whole t) ↔ whole.IsPlain) := by
  have hSubscript (text : String) (nodes : List (Node Value))
      (hParsed : HintText.parse text = .ok (.subscript dotted nodes)) :
      (Object.value (.str text)).toType ns = do
        let origin ← originOf (Text.quote dotted) base
        let types ← ofNodes ns ns.places nodes
        return .generic origin types false := by
    rw [toType_text hParsed, ofNode_subscript_alias hFind hOpen hBase]
  refine ⟨hSubscript, fun h => ?_, fun hPlain text nodes types hParsed hCount hTypes => ?_⟩
  · refine @isPlain_of_marked ns _ hOpen fun place => ?_
    have hTypes : ofNodes ns ns.places ((marked whole.typeVariables.length place).map .literal)
        = .ok ((marked whole.typeVariables.length place).map .literal) :=
      ofNodes_literals fun v hMem => (exists_of_mem_marked hMem).imp fun _ h => h.1
    have hParsed := parse_marked hDotted whole.typeVariables.length place
    obtain ⟨t, hType, hConverts⟩ := h _ _ _ hParsed (by rw [List.length_map, length_marked]) hTypes
    rw [hSubscript _ _ hParsed] at hType
    obtain ⟨origin, -, hType⟩ := Sequence.bind_eq_ok_iff.1 hType
    rw [hTypes] at hType
    cases hType
    exact ⟨origin, hConverts⟩
  · obtain ⟨origin, hOrigin, hConverts⟩ := convertsWith_of_isPlain hPlain hOpen
      (converts_of_ofName hFind hBase) (Text.quote dotted)
    refine ⟨.generic origin types false, ?_, hConverts types ?_⟩
    · rw [hSubscript text nodes hParsed, hOrigin, hTypes]
      rfl
    · rw [length_of_ofNodes hTypes, hCount]

namespace AliasSubscript.Sample

def key : TypeVariable := ⟨.single, "K", "m", 1⟩

def item : TypeVariable := ⟨.single, "V", "m", 2⟩

/-- The mappings from one variable type to another. -/
def pairs : Object :=
  .generic false (.cls (.builtin "dict")) [.typeVariable key, .typeVariable item]

/-- The mappings from texts to a variable type. -/
def named : Object :=
  .generic false (.cls (.builtin "dict")) [.cls (.builtin "str"), .typeVariable item]

/-- The lists of a variable type, or nothing. -/
def perhaps : Object :=
  .union true
    [.generic true (.alias "List" (.builtin "list")) [.typeVariable item], .cls .noneClass]

def world : World where
  modules := [
    ⟨"builtins", false, [("int", .cls (.builtin "int")), ("str", .cls (.builtin "str"))]⟩,
    ⟨"m", false, [("Pairs", pairs), ("Named", named), ("Perhaps", perhaps)]⟩]
  classes := []
  memory := []

def ns : Namespace := world.namespaceOf "m"

def whole : TypeExpr := .named (.builtin "int")

def text : TypeExpr := .named (.builtin "str")

open Conversion

theorem ofNode_int : ofNode ns ns.places (.name "int") = .ok whole := by
  have hFind : (ns.find "int").map Found.object = some (.cls (.builtin "int")) := rfl
  rw [ofNode, if_neg (by decide), if_neg (by decide), ofName_of_textless hFind rfl, ofObject_cls]
  rfl

theorem parse_ints {dotted : String} (hDotted : Node.IsDotted dotted) (count : Nat) :
    HintText.parse (Node.subscript dotted (List.replicate count (.name "int"))).written
      = .ok (.subscript dotted (List.replicate count (.name "int"))) := by
  refine parse_written ⟨hDotted, Node.areHints_iff.2 fun node hMem => ?_⟩
  have hInt : Node.IsDotted "int" := by decide
  rwa [List.eq_of_mem_replicate hMem]

theorem ofNodes_int : ofNodes ns ns.places [.name "int"] = .ok [whole] := by
  rw [ofNodes, ofNodes, ofNode_int]
  rfl

theorem toType_int {dotted text : String} {object : Object} {origin : NamedType}
    {types : List TypeExpr} {isNullable : Bool} (hDotted : Node.IsDotted dotted)
    (hText : (Node.subscript dotted [.name "int"]).written = text)
    (hFind : (ns.find dotted).map Found.object = some object) (hOpen : object.typeVariables ≠ [])
    (hBase : ofName ns ns.places dotted = .ok (.generic origin types isNullable)) :
    (Object.value (.str text)).toType ns = .ok (.generic origin [whole] false) := by
  have hParsed := parse_ints hDotted 1
  rw [List.replicate_one, hText] at hParsed
  rw [toType_text hParsed, ofNode_subscript_alias hFind hOpen hBase, ofNodes_int]
  rfl

theorem convertsWith_item : ConvertsWith ns (assigned [item] [whole]) (.typeVariable item) whole :=
  .typeVariable rfl

theorem convertsWith_named : ConvertsWith ns (assigned [item] [whole]) named
    (.generic (.builtin "dict") [text, whole] false) := by
  have hText : ConvertsWith ns (assigned [item] [whole]) (.cls (.builtin "str")) text :=
    .closed rfl (.value (.cls rfl))
  exact .of_arguments false (.value (.cls rfl)) (List.cons_ne_nil _ _)
    (.cons hText (.cons convertsWith_item .nil))

theorem convertsWith_perhaps : ConvertsWith ns (assigned [item] [whole]) perhaps
    (.generic (.builtin "list") [whole] true) := by
  have hItems : ConvertsWith ns (assigned [item] [whole])
      (.generic true (.alias "List" (.builtin "list")) [.typeVariable item])
      (.generic (.builtin "list") [whole] false) :=
    .of_arguments true (.aliased rfl) (List.cons_ne_nil _ _) (.cons convertsWith_item .nil)
  have hNone : ConvertsWith ns (assigned [item] [whole]) (.cls .noneClass) (.named .none) :=
    .closed rfl (.value (.cls rfl))
  exact .of_members true (.cons hItems (.cons hNone .nil))

theorem find_pairs : (ns.find "Pairs").map Found.object = some pairs := rfl

theorem find_named : (ns.find "Named").map Found.object = some named := rfl

theorem find_perhaps : (ns.find "Perhaps").map Found.object = some perhaps := rfl

theorem ofName_pairs : ∃ types, ofName ns ns.places "Pairs"
    = .ok (.generic (.builtin "dict") types false) := by
  rw [ofName_of_textless find_pairs rfl, pairs, ofObject_generic (ofObject_cls _) (by simp),
    ofObjects, ofObjects, ofObjects, ofObject, ofObject]
  exact ⟨_, rfl⟩

theorem ofName_named : ∃ types, ofName ns ns.places "Named"
    = .ok (.generic (.builtin "dict") types false) := by
  rw [ofName_of_textless find_named rfl, named, ofObject_generic (ofObject_cls _) (by simp),
    ofObjects, ofObjects, ofObjects, ofObject_cls, ofObject]
  exact ⟨_, rfl⟩

theorem ofName_perhaps : ∃ types, ofName ns ns.places "Perhaps"
    = .ok (.generic (.builtin "list") types true) := by
  have hList : ofObject ns ns.places (.alias "List" (.builtin "list"))
      = .ok (.named (.builtin "list")) := by
    rw [ofObject]
    rfl
  rw [ofName_of_textless find_perhaps rfl, perhaps, ofObject_union, ofObjects, ofObjects, ofObjects,
    ofObject_generic hList (by simp), ofObjects, ofObjects, ofObject_cls, ofObject]
  exact ⟨_, rfl⟩

end AliasSubscript.Sample

open AliasSubscript.Sample Conversion in
theorem subscript_keeps_origin_of_pairs :
    pairs.IsPlain ∧ ∃ t, (Object.value (.str "Pairs[int, int]")).toType ns = .ok t ∧
      ConvertsWith ns (assigned [key, item] [whole, whole]) pairs t := by
  have hPlain : pairs.IsPlain := ⟨_, _, _, .self _, .cons (.self _) (.cons (.self _) .nil)⟩
  have hDotted : Node.IsDotted "Pairs" := by decide
  have hText : (Node.subscript "Pairs" [.name "int", .name "int"]).written = "Pairs[int, int]" := by
    decide +kernel
  have hTypes : ofNodes ns ns.places [.name "int", .name "int"] = .ok [whole, whole] := by
    rw [ofNodes, ofNodes, ofNodes, ofNode_int]
    rfl
  obtain ⟨types, hBase⟩ := ofName_pairs
  have hAll := (subscript_keeps_origin hDotted find_pairs (List.cons_ne_nil _ _) hBase).2.2 hPlain
  exact ⟨hPlain, hText ▸ hAll _ _ _ (parse_ints hDotted 2) rfl hTypes⟩

open AliasSubscript.Sample Conversion in
/-- A subscript of the mappings from texts loses the texts, and one of the lists or nothing loses
the mark that nothing is allowed. The object that is built of the same subscript keeps them. -/
theorem subscript_loses_arguments :
    (Object.value (.str "Named[int]")).toType ns = .ok (.generic (.builtin "dict") [whole] false) ∧
      ConvertsWith ns (assigned [item] [whole]) named
        (.generic (.builtin "dict") [text, whole] false) ∧
      ¬ ConvertsWith ns (assigned [item] [whole]) named (.generic (.builtin "dict") [whole] false) ∧
      (∃ object answers,
        (Typing.subscript world named [.cls (.builtin "int")]).Builds object answers ∧
        object.toType ns = .ok (.generic (.builtin "dict") [text, whole] false)) ∧
      (Object.value (.str "Perhaps[int]")).toType ns
        = .ok (.generic (.builtin "list") [whole] false) ∧
      ConvertsWith ns (assigned [item] [whole]) perhaps
        (.generic (.builtin "list") [whole] true) := by
  refine ⟨?_, ?_, ?_, ?_, ?_, ?_⟩
  · obtain ⟨types, hBase⟩ := ofName_named
    exact toType_int (by decide) (by decide +kernel) find_named (List.cons_ne_nil _ _) hBase
  · exact convertsWith_named
  · intro h
    cases h.arguments (List.cons_ne_nil _ _) with
    | cons _ hMore => cases hMore
  · refine ⟨.generic false (.cls (.builtin "dict")) [.cls (.builtin "str"), .cls (.builtin "int")],
      [], rfl, ?_⟩
    rw [Object.toType, ofObject_generic (ofObject_cls _) (by simp), ofObjects, ofObjects, ofObjects,
      ofObject_cls, ofObject_cls]
    rfl
  · obtain ⟨types, hBase⟩ := ofName_perhaps
    exact toType_int (by decide) (by decide +kernel) find_perhaps (List.cons_ne_nil _ _) hBase
  · exact convertsWith_perhaps

end Interpose

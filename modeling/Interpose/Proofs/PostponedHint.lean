import Interpose.Proofs.HintText.Written
import Interpose.Proofs.LiveHint.Agreement
import Interpose.Proofs.LiveHint.Evaluated

/-! # Postponed evaluation of annotations

An annotation can be left as a text, whose names are looked up when it is converted, or it can be
evaluated to an object. If the names mean the same in both, the type is the same.
-/
namespace Interpose

set_option autoImplicit false

open HintText

/-- An annotation is evaluated to the object that it denotes, and any text that is read as its tree
has the type of the object, as its own text does; and it has a type if the texts quoted in it do. -/
theorem postponed_hint_same_type {scope : Scope} {quoted : String → Prop} {node : Node Value}
    {object : Object} {answers memory : Memory} (h : Denotes scope quoted node object answers)
    (hWritten : node.IsHint Value.IsHintLiteral false)
    (hRemembered : ∀ entry ∈ answers, ∀ other ∈ memory ++ answers,
      entry.1.isSame other.1 = true → other.2 = entry.2) :
    (∃ next, (scope.world.evalObject (node.expr scope.paths)).run memory = some (object, next)) ∧
      HintText.parse node.written = .ok node ∧
      (∀ text, HintText.parse text = .ok node →
        (Object.value (.str text)).toType scope.names = object.toType scope.names) ∧
      ((∀ s, quoted s → ∃ type, (Object.forward s).toType scope.names = .ok type) →
        ∃ type, object.toType scope.names = .ok type) := by
  have hSame : ∀ places, Conversion.ofNode scope.names places node
      = Conversion.ofObject scope.names places object := fun places => h.agrees.same
  refine ⟨?_, HintText.parse_written hWritten, ?_, ?_⟩
  · have hSettled : ∀ entry ∈ answers, (memory ++ answers).Settles entry := by
      intro entry hEntry
      exact ⟨List.mem_append_right _ hEntry, hRemembered entry hEntry⟩
    obtain ⟨next, -, hRun⟩ := h.yields hSettled memory (List.subset_append_left _ _)
    exact ⟨next, hRun⟩
  · intro text hText
    rw [toType_text hText]
    exact hSame _
  · intro hQuoted
    have hTexts : ∀ s, quoted s → ∃ type, Conversion.ofText scope.names scope.names.places s
        (Text.quote s) = .ok type := by
      intro s hText
      rw [← toType_forward]
      exact hQuoted s hText
    obtain ⟨type, hType⟩ := h.exists_type hTexts
    exact ⟨type, (hSame _).symm.trans hType⟩

theorem settled_of_pairwise {answers : Memory} (h : answers.Pairwise fun e f =>
      e.1.isSame f.1 = false ∧ f.1.isSame e.1 = false) :
    ∀ entry ∈ answers, ∀ other ∈ answers, entry.1.isSame other.1 = true → other.2 = entry.2 := by
  induction answers with
  | nil => exact List.forall_mem_nil _
  | cons first answers ih =>
    obtain ⟨hFirst, hRest⟩ := List.pairwise_cons.1 h
    intro entry hEntry other hOther hSame
    rcases List.mem_cons.1 hEntry with rfl | hLater
    · rcases List.mem_cons.1 hOther with rfl | hOtherLater
      · rfl
      · rw [(hFirst other hOtherLater).1] at hSame
        contradiction
    · rcases List.mem_cons.1 hOther with rfl | hOtherLater
      · rw [(hFirst entry hLater).2] at hSame
        contradiction
      · exact ih hRest entry hLater other hOtherLater hSame

namespace PostponedHint.Sample

/-- A class whose name is not an ASCII identifier. -/
def measure : ClassRef := ⟨"m", "Größe", 1, false⟩

/-- A class that is generic in the parameters of a callable object. -/
def wrapper : ClassRef := ⟨"m", "Wrapper", 2, false⟩

/-- A class that is generic in a type and any number of further types. -/
def row : ClassRef := ⟨"m", "Row", 3, false⟩

def parameters : TypeVariable := ⟨.parameters, "P", "m", 4⟩

def world : World where
  modules := [⟨"m", false, [("int", .cls (.builtin "int")), ("str", .cls (.builtin "str")),
    ("List", .alias "List" (.builtin "list")), ("Tuple", .alias "Tuple" (.builtin "tuple")),
    ("Callable", .alias "Callable" ⟨"collections.abc", "Callable", 0, false⟩),
    ("Union", .special "Union"), ("Optional", .special "Optional"), ("Unpack", .special "Unpack"),
    ("Größe", .cls measure), ("Wrapper", .cls wrapper), ("Row", .cls row),
    ("P", .typeVariable parameters)]⟩]
  classes := [⟨wrapper, "Wrapper", [.genericClass], [wrapper, .genericClass], [], [parameters]⟩,
    ⟨row, "Row", [.genericClass], [row, .genericClass], [],
      [⟨.single, "T", "m", 5⟩, ⟨.tuple, "Ts", "m", 6⟩]⟩]
  memory := []

def scope : Scope where
  world := world
  names := world.namespaceOf "m"
  paths dotted := ["m", dotted]

def callableAlias : Object := .alias "Callable" ⟨"collections.abc", "Callable", 0, false⟩

def integer : HintPart := ⟨.name "int", .cls (.builtin "int"), []⟩

def reference : HintPart := ⟨.literal (.str "Item"), .value (.str "Item"), []⟩

def resultObject : Object := .union true [.forward "Item", .cls .noneClass]

def result : HintPart where
  node := .subscript "Optional" [reference.node]
  object := resultObject
  answers := [(⟨.special "Union", [.forward "Item", .cls .noneClass], true, false⟩, resultObject),
    (⟨.special "Optional", [reference.object], false, false⟩, resultObject)]

def callableObject : Object := .generic true callableAlias [.list [integer.object], resultObject]

/-- A type of callable objects, the result of which is quoted and result. -/
def callable : HintPart where
  node := .subscript "Callable" [.list [integer.node], result.node]
  object := callableObject
  answers := result.answers ++
    [(⟨callableAlias, [.tuple [integer.object], resultObject], true, false⟩, callableObject)]

end PostponedHint.Sample

open PostponedHint.Sample Object in
theorem denotes_result :
    Denotes scope (· = "Item") result.node result.object result.answers := by
  have hReference : Denotes scope (· = "Item") reference.node reference.object reference.answers :=
    .reference rfl
  have hMembers : AreMembers [reference.object, .none] := by
    refine ⟨Nat.le_refl 2, ?_, ?_⟩
    · intro object hObject typed members
      rcases List.mem_pair.1 hObject with rfl | rfl <;> nofun
    · exact List.pairwise_pair.2 rfl
  exact @Denotes.subscript scope _ "Optional" (.special "Optional") [reference] _ _ ⟨rfl, rfl⟩
    trivial (List.forall_mem_singleton.2 hReference) (List.cons_ne_nil _ _) (.optional hMembers) rfl

open PostponedHint.Sample Object in
theorem denotes_callable :
    Denotes scope (· = "Item") callable.node callable.object callable.answers := by
  have hInteger : Denotes scope (· = "Item") integer.node integer.object integer.answers :=
    .name ⟨rfl, rfl⟩ (show ClassRef.builtin "int" ≠ ClassRef.genericClass by decide) (by decide)
      (by decide)
  have hAlias : callableAlias.IsNameable :=
    show (⟨"collections.abc", "Callable", 0, false⟩ : ClassRef) ≠ ClassRef.genericClass by decide
  have hAlone : ∀ item, [integer] = [item] → item.object.isParameters = false := by
    rintro item hItem
    cases hItem
    rfl
  exact @Denotes.callable scope _ "Callable" callableAlias [integer] result _ _ ⟨rfl, rfl⟩ hAlias
    ⟨rfl, nofun⟩ (List.forall_mem_singleton.2 hInteger) hAlone denotes_result rfl

open PostponedHint.Sample in
theorem postponed_hint_same_type_of_callable :
    Denotes scope (· = "Item") callable.node callable.object callable.answers ∧
      callable.node.IsHint Value.IsHintLiteral false ∧
      (∀ entry ∈ callable.answers, ∀ other ∈ world.memory ++ callable.answers,
        entry.1.isSame other.1 = true → other.2 = entry.2) ∧
      ∃ next, (world.evalObject (callable.node.expr scope.paths)).run world.memory
        = some (callable.object, next) := by
  have hWritten : callable.node.IsHint Value.IsHintLiteral false :=
    ⟨by decide, ⟨rfl, (by decide : Node.IsDotted "int"), trivial⟩, ⟨by decide, trivial, trivial⟩,
      trivial⟩
  have hRemembered := settled_of_pairwise (show callable.answers.Pairwise fun e f =>
    e.1.isSame f.1 = false ∧ f.1.isSame e.1 = false by decide)
  exact ⟨denotes_callable, hWritten, hRemembered,
    (postponed_hint_same_type denotes_callable hWritten hRemembered).1⟩

namespace PostponedHint.Sample

open Conversion

variable {places : List Place}

def tupleAlias : Object := .alias "Tuple" (.builtin "tuple")

def listAlias : Object := .alias "List" (.builtin "list")

def listOf (a b : String) : Node Value :=
  .subscript "List" [.subscript "Union" [.name a, .name b]]

def listObject : Object :=
  .generic true listAlias [.union true [integer.object, .cls (.builtin "str")]]

/-- The second list is remembered as the first one, in which the members have another order. -/
def reordered : Node Value := .subscript "Tuple" [listOf "int" "str", listOf "str" "int"]

/-- A parameter variable by itself in a list loses the list. -/
def unlisted : Node Value := .subscript "Callable" [.list [.name "P"], .name "int"]

/-- The arguments for a parameter variable become one tuple. -/
def gathered : Node Value := .subscript "Wrapper" [.name "int", .name "str"]

/-- An unpacked tuple type of open length also stands for an argument that is missing. -/
def filled : Node Value :=
  .subscript "Row" [.subscript "Unpack" [.subscript "Tuple" [.name "int", .ellipsis]]]

def filledObject : Object :=
  .generic true (.cls row) [integer.object, .generic true (.special "Unpack")
    [.generic true tupleAlias [integer.object, .value .ellipsis]]]

/-- Whether a tree denotes an object, and its text and the object are converted differently. -/
def Differs (node : Node Value) (object : Object) : Prop :=
  world.evalObject? (node.expr scope.paths) = some object ∧
    (Object.value (.str node.written)).toType scope.names ≠ object.toType scope.names

def integerType : TypeExpr := .named (.builtin "int")

def textType : TypeExpr := .named (.builtin "str")

theorem nameable_builtin {name : String} (h : ClassRef.builtin name ≠ ClassRef.genericClass) :
    (Object.cls (.builtin name)).IsNameable :=
  h

theorem nameable_alias {name : String} {c : ClassRef} (h : c ≠ ClassRef.genericClass) :
    (Object.alias name c).IsNameable :=
  h

theorem ofObject_int : ofObject scope.names places (.cls (.builtin "int")) = .ok integerType := by
  rw [ofObject, ofValue]
  rfl

theorem ofNode_int : ofNode scope.names places (.name "int") = .ok integerType :=
  (agrees_name rfl (nameable_builtin (by decide)) (by decide) (by decide)).same.trans ofObject_int

theorem ofNode_str : ofNode scope.names places (.name "str") = .ok textType := by
  have hObject : ofObject scope.names places (.cls (.builtin "str")) = .ok textType := by
    rw [ofObject, ofValue]
    rfl
  exact (agrees_name rfl (nameable_builtin (by decide)) (by decide) (by decide)).same.trans hObject

theorem ofObject_alias {name : String} {c : ClassRef} (h : c ≠ ClassRef.genericClass)
    (hAny : c ≠ ClassRef.anyClass) :
    ofObject scope.names places (.alias name c) = .ok (.named (.ofClass c)) := by
  rw [ofObject, classType, if_neg hAny, if_neg h]

theorem ofNode_listOf {a b : String} {s t : TypeExpr}
    (hFirst : ofNode scope.names places (.name a) = .ok s)
    (hSecond : ofNode scope.names places (.name b) = .ok t) :
    ofNode scope.names places (listOf a b)
      = .ok (.generic (.builtin "list") [.unite [s, t]] false) := by
  rw [listOf, ofNode_ordinary rfl (nameable_alias (by decide))
    (ofObject_alias (by decide) (by decide)) rfl, ofNodes, ofNodes, ofNode_union rfl, ofNodes,
    ofNodes, ofNodes, hFirst, hSecond]
  rfl

theorem differs_reordered :
    Differs reordered (.generic true tupleAlias [listObject, listObject]) := by
  have hTuple : ofObject scope.names scope.names.places tupleAlias
      = .ok (.named (.ofClass (.builtin "tuple"))) :=
    ofObject_alias (by decide) (by decide)
  have hWritten : reordered.IsHint Value.IsHintLiteral false := by
    simp only [reordered, listOf, Node.IsHint, Node.AreHints, and_true]
    decide
  refine ⟨rfl, ?_⟩
  intro hSame
  rw [toType_text (parse_written hWritten), Object.toType, reordered,
    ofNode_ordinary rfl (nameable_alias (by decide)) hTuple rfl, ofNodes, ofNodes, ofNodes,
    ofNode_listOf ofNode_int ofNode_str, ofNode_listOf ofNode_str ofNode_int,
    ofObject_generic hTuple (List.cons_ne_nil _ _), ofObjects, ofObjects, ofObjects] at hSame
  cases hList : ofObject scope.names scope.names.places listObject with
  | error failure =>
    rw [hList] at hSame
    contradiction
  | ok type =>
    rw [hList] at hSame
    have hTypes := (TypeExpr.generic.inj (Except.ok.inj hSame)).2.1
    obtain ⟨hFirst, hRest⟩ := List.cons.inj hTypes
    have hLists := hFirst.trans (List.cons.inj hRest).1.symm
    have hUnions := (List.cons.inj (TypeExpr.generic.inj hLists).2.1).1
    have hMembers := (List.cons.inj (TypeExpr.union.inj hUnions)).1
    exact absurd (TypeExpr.named.inj hMembers) (by decide)

theorem differs_gathered :
    Differs gathered
      (.generic true (.cls wrapper) [.tuple [integer.object, .cls (.builtin "str")]]) := by
  have hWrapper : ofObject scope.names scope.names.places (.cls wrapper)
      = .ok (.named (.ofClass wrapper)) := by
    rw [ofObject, ofValue]
    rfl
  have hNameable : (Object.cls wrapper).IsNameable :=
    show wrapper ≠ ClassRef.genericClass by decide
  have hWritten : gathered.IsHint Value.IsHintLiteral false := by
    simp only [gathered, Node.IsHint, Node.AreHints, and_true]
    decide
  refine ⟨rfl, ?_⟩
  intro hSame
  rw [toType_text (parse_written hWritten), Object.toType, gathered,
    ofNode_ordinary rfl hNameable hWrapper rfl, ofNodes, ofNodes, ofNodes, ofNode_int, ofNode_str,
    ofObject_generic hWrapper (List.cons_ne_nil _ _), ofObjects, ofObject] at hSame
  contradiction

theorem differs_unlisted :
    Differs unlisted
      (.generic true callableAlias [.typeVariable parameters, integer.object]) := by
  have hCallable : ofObject scope.names scope.names.places callableAlias
      = .ok (.named (.ofClass ⟨"collections.abc", "Callable", 0, false⟩)) :=
    ofObject_alias (by decide) (by decide)
  have hParameters : ofObject scope.names scope.names.places (.typeVariable parameters)
      = .ok (.named (variableType scope.names parameters)) := by
    rw [ofObject]
  have hName : ofNode scope.names scope.names.places (.name "P")
      = ofObject scope.names scope.names.places (.typeVariable parameters) :=
    (agrees_name rfl (show (Object.typeVariable parameters).IsNameable from trivial) (by decide)
      (by decide)).same
  have hList : ofNode scope.names scope.names.places (.list [.name "P"])
      = .ok (.list [.named (variableType scope.names parameters)]) := by
    rw [ofNode, ofNodes, ofNodes, hName, hParameters]
    rfl
  have hWritten : unlisted.IsHint Value.IsHintLiteral false := by
    simp only [unlisted, Node.IsHint, Node.AreHints, and_true]
    decide
  refine ⟨rfl, ?_⟩
  intro hSame
  rw [toType_text (parse_written hWritten), Object.toType, unlisted,
    ofNode_ordinary rfl (nameable_alias (by decide)) hCallable rfl,
    ofObject_generic hCallable (List.cons_ne_nil _ _), ofNodes, hList, ofNodes, ofNodes, ofNode_int,
    ofObjects, ofObjects, ofObjects, integer, ofObject_int, hParameters] at hSame
  have hTypes := (TypeExpr.generic.inj (Except.ok.inj hSame)).2.1
  cases (List.cons.inj hTypes).1

theorem differs_filled : Differs filled filledObject := by
  have hRow : ofObject scope.names scope.names.places (.cls row) = .ok (.named (.ofClass row)) := by
    rw [ofObject, ofValue]
    rfl
  have hNameable : (Object.cls row).IsNameable := show row ≠ ClassRef.genericClass by decide
  have hPair : ofNodes scope.names scope.names.places [.name "int", .ellipsis]
      = .ok [integerType, .named (.builtin "...")] := by
    rw [ofNodes, ofNodes, ofNodes, ofNode_int, ofNode]
    rfl
  have hTuple : ∃ type, ofNode scope.names scope.names.places
      (.subscript "Tuple" [.name "int", .ellipsis]) = .ok type :=
    exists_ofNode_subscript rfl (nameable_alias (by decide)) rfl hPair
  have hUnpack : ∃ type, ofNode scope.names scope.names.places
      (.subscript "Unpack" [.subscript "Tuple" [.name "int", .ellipsis]]) = .ok type := by
    obtain ⟨tuple, hTuple⟩ := hTuple
    have hUnpackable : (Object.special "Unpack").IsNameable := trivial
    apply exists_ofNode_subscript rfl hUnpackable rfl
    rw [ofNodes, ofNodes, hTuple]
    rfl
  obtain ⟨unpack, hUnpack⟩ := hUnpack
  have hWritten : filled.IsHint Value.IsHintLiteral false := by
    simp only [filled, Node.IsHint, Node.AreHints, and_true]
    decide
  refine ⟨rfl, ?_⟩
  intro hSame
  rw [toType_text (parse_written hWritten), Object.toType, filled,
    ofNode_ordinary rfl hNameable hRow rfl, ofNodes, ofNodes, hUnpack, filledObject,
    ofObject_generic hRow (List.cons_ne_nil _ _), ofObjects, ofObjects,
    ofObjects, integer, ofObject_int] at hSame
  cases hLast : ofObject scope.names scope.names.places (.generic true (.special "Unpack")
      [.generic true tupleAlias [.cls (.builtin "int"), .value .ellipsis]]) with
  | error failure =>
    rw [hLast] at hSame
    contradiction
  | ok type =>
    rw [hLast] at hSame
    have hTypes := (TypeExpr.generic.inj (Except.ok.inj hSame)).2.1
    cases (List.cons.inj hTypes).2

/-- A name that is not an ASCII identifier cannot be read. -/
theorem differs_foreign : Differs (.name "Größe") (.cls measure) := by
  have hForeign : spelled? "Größe".toList = none := by decide +kernel
  have hText : Node.written (.name "Größe") = "Größe" := by decide +kernel
  refine ⟨rfl, ?_⟩
  intro hSame
  rw [hText, Object.toType, Object.toType, ofObject, ofObject, ofValue, ofValue, ofText, parseShown,
    hForeign] at hSame
  contradiction

end PostponedHint.Sample

open PostponedHint.Sample in
/-- The text and the object of an annotation can have different types. -/
theorem postponed_hint_differs :
    Differs reordered (.generic true tupleAlias [listObject, listObject]) ∧
    Differs unlisted (.generic true callableAlias [.typeVariable parameters, integer.object]) ∧
    Differs gathered (.generic true (.cls wrapper) [.tuple [integer.object, .cls (.builtin "str")]]) ∧
    Differs filled filledObject ∧ Differs (.name "Größe") (.cls measure) :=
  ⟨differs_reordered, differs_unlisted, differs_gathered, differs_filled, differs_foreign⟩

end Interpose

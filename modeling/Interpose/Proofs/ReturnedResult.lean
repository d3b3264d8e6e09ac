import Interpose.Proofs.ForwardingText
import Interpose.Proofs.HintExpression
import Interpose.Proofs.Rendering.Pieces
import Interpose.Proofs.Surface

/-! # Results that are handed back

A forwarding method hands the result of its call back unless its hint is one of the three words for
nothing. Of the types that annotations are converted to, only the builtin types of these names are
written as such a word: every other type is written with a blank, a point or a bracket, is a number,
or refers to a class that is not called so. The call is awaited, in a coroutine function, if the
method is a coroutine function.
-/
namespace Interpose

set_option autoImplicit false

open Sequence

/-! ## The text of a forwarding method -/

namespace ForwardingMethod

/-- The call of the wrapped collection. -/
def call (f : ForwardingMethod) : String :=
  "self._coll." ++ f.name ++ "(" ++ f.argumentsText ++ ")"

/-- Whether the last line of the text is the call, with `return` and `await` before it or not. -/
def EndsWithCall (f : ForwardingMethod) (returned awaited : Bool) : Prop :=
  ∃ before, f.text = before ++ "\n        " ++ (if returned then "return " else "")
    ++ (if awaited then "await " else "") ++ f.call ++ "\n"

/-- Whether the first line of the text starts the definition of a function, which is a coroutine
function or not. -/
def StartsDefinition (f : ForwardingMethod) (isCoroutine : Bool) : Prop :=
  ∃ after, f.text = "\n    " ++ (if isCoroutine then "async def " else "def ") ++ f.name ++ "("
    ++ after

variable {f : ForwardingMethod}

theorem endsWithCall (f : ForwardingMethod) : f.EndsWithCall f.returnsResult f.isAsync := by
  obtain ⟨others, last, hLines⟩ : ∃ others last, f.lines = others ++ [last] ++
      ["        " ++ f.words ++ "self._coll." ++ f.name ++ "(" ++ f.argumentsText ++ ")"] := by
    rw [f.lines_eq]
    exact ⟨[_, _, _], _, rfl⟩
  refine ⟨"\n" ++ Text.joinLines others ++ last, ?_⟩
  rw [text_eq, hLines, Text.joinLines_append, Text.joinLines_append, Text.joinLines_singleton,
    Text.joinLines_singleton, words, call, ← String.toList_inj]
  simp [String.toList_append]

theorem startsDefinition (f : ForwardingMethod) : f.StartsDefinition f.isAsync := by
  rw [StartsDefinition, text_eq, f.lines_eq, forwardingLines, Text.joinLines_cons]
  cases f.isAsync <;>
  · simp only [String.append_assoc]
    exact ⟨_, rfl⟩

theorem endsWithCall_iff {returned awaited : Bool} :
    f.EndsWithCall returned awaited ↔ returned = f.returnsResult ∧ awaited = f.isAsync := by
  constructor
  · rintro ⟨other, hOther⟩
    obtain ⟨before, hText⟩ := f.endsWithCall
    rw [hText, String.append_left_inj, String.append_left_inj] at hOther
    -- Read from its end, what stands before the call tells the four cases apart.
    have hChars := congrArg (fun text => text.toList.reverse) hOther
    revert hChars
    cases f.returnsResult <;> cases f.isAsync <;> cases returned <;> cases awaited <;> simp
  · rintro ⟨rfl, rfl⟩
    exact f.endsWithCall

theorem startsDefinition_iff {isCoroutine : Bool} :
    f.StartsDefinition isCoroutine ↔ isCoroutine = f.isAsync := by
  constructor
  · rintro ⟨other, hOther⟩
    obtain ⟨after, hText⟩ := f.startsDefinition
    have hChars := congrArg String.toList (hText.symm.trans hOther)
    revert hChars
    cases f.isAsync <;> cases isCoroutine <;> simp
  · rintro rfl
    exact f.startsDefinition

end ForwardingMethod

/-! ## The types of annotations -/

open HintText (Node Spelling)

/-- Whether a value is what a literal of an annotation is read as. -/
def Value.IsReadLiteral (v : Value) : Prop :=
  ∃ spelling : Spelling, spelling.read? = some v

namespace HintText

theorem isHint_isReadLiteral {text : String} {tree : Node Value} (h : parse text = .ok tree) :
    tree.IsHint Value.IsReadLiteral false := by
  obtain ⟨spelled, hSpelled, hRead⟩ := parse_eq_ok_iff.1 h
  have hHint := (spelled?_eq_some_iff.1 hSpelled).isHint
  exact Node.IsHint.of_mapLeaves? (fun spelling _ hValue _ => ⟨spelling, hValue⟩) spelled hRead
    hHint

end HintText

namespace TypeExpr

/-- Whether a type is one that an object is converted to, or a tree of an annotation that is
written as text. -/
def IsConverted (t : TypeExpr) : Prop :=
  ∃ (ns : Namespace) (places : List Place),
    (∃ object, Conversion.ofObject ns places object = .ok t) ∨
      ∃ node : Node Value, node.IsHint Value.IsReadLiteral true ∧
        Conversion.ofNode ns places node = .ok t

/-- What is always so at the top of a type that an annotation is converted to: a builtin type has
no module, no union or intersection has one member, and no literal is written as a word. -/
def IsTelling : TypeExpr → Prop
  | .named t => t.isBuiltin = true → t.module = none
  | .union members | .intersection members => members.length ≠ 1
  | .literal v => v.text ∉ nothingHints
  | .generic .. | .list _ => True

end TypeExpr

theorem not_mem_nothingHints_of_takeNumber {text : String} {taken : Decimal.Numeral × List Char}
    (h : Decimal.takeNumber (text.toList ++ []) = some taken) : text ∉ nothingHints := by
  have hWords : ∀ word ∈ nothingHints, Decimal.takeNumber (word.toList ++ []) = none := by decide
  intro hMem
  rw [hWords text hMem] at h
  cases h

theorem text_binary64_not_mem_nothingHints (x : Decimal.Binary64) : x.text ∉ nothingHints := by
  cases x with
  | nan => decide
  | infinite negative => cases negative <;> decide
  | finite negative magnitude =>
    obtain ⟨n, -, -, hReads⟩ := Decimal.takeNumber_text negative magnitude
    exact not_mem_nothingHints_of_takeNumber (hReads [] trivial)

theorem Value.text_not_mem_nothingHints {v : Value} (h : v.IsReadLiteral)
    (hText : Conversion.quotedText? v = Option.none) : v.text ∉ nothingHints := by
  obtain ⟨spelling, hRead⟩ := h
  cases spelling with
  | text content =>
    obtain ⟨points, -, rfl⟩ := Option.map_eq_some_iff.1 hRead
    unfold ofCodePoints at hText
    split at hText <;> cases hText
  | number parts =>
    have hWhole (n : Int) : n.repr ∉ nothingHints :=
      not_mem_nothingHints_of_takeNumber (Decimal.takeNumber_repr n trivial)
    rw [Spelling.read?, HintText.readNumber] at hRead
    split at hRead
    next =>
      cases hRead
      exact text_binary64_not_mem_nothingHints _
    next =>
      split at hRead
      next =>
        cases hRead
        exact hWhole 0
      next =>
        split at hRead
        next => cases hRead
        next =>
          cases hRead
          exact hWhole _

namespace Conversion

variable {ns : Namespace} {subject : Subject} {t : TypeExpr}

/-- Whether a tree that is converted has literals that can be read only. -/
def Subject.IsParsed : Subject → Prop
  | .node tree => tree.IsHint Value.IsReadLiteral true
  | _ => True

theorem isTelling_classType {c : ClassRef} (h : classType c = .ok t) : t.IsTelling := by
  rw [classType] at h
  split at h
  next =>
    cases h
    exact fun _ => rfl
  next =>
    split at h
    next => cases h
    next =>
      cases h
      rw [TypeExpr.IsTelling, NamedType.ofClass]
      split
      next => exact fun _ => rfl
      next =>
        split
        next => exact fun _ => rfl
        next => exact fun hBuiltin => absurd hBuiltin Bool.false_ne_true

theorem isTelling_variableType (v : TypeVariable) :
    (TypeExpr.named (variableType ns v)).IsTelling := by
  rw [variableType]
  split
  next => exact fun hBuiltin => absurd hBuiltin Bool.false_ne_true
  next => exact fun _ => rfl

theorem isTelling_unite {members : List TypeExpr} (h : ∀ member ∈ members, member.IsTelling) :
    (TypeExpr.unite members).IsTelling := by
  unfold TypeExpr.unite
  split
  next member => exact h member List.mem_cons_self
  next a b =>
    split
    next t hFilter =>
      have hMem : TypeExpr.named t ∈ [a, b].filter (!·.isNone) := hFilter ▸ List.mem_cons_self
      have hTelling : (TypeExpr.named t).IsTelling := h _ (List.mem_of_mem_filter hMem)
      exact hTelling
    next => trivial
    next => exact Nat.succ_ne_self 1
  next hOther _ =>
    intro hOne
    obtain ⟨member, rfl⟩ := List.length_eq_one_iff.1 hOne
    exact hOther member rfl

theorem isTelling_parts {α : Type} {parts : List (α × TypeExpr)} {asSubject : α → Subject}
    (ih : ∀ part ∈ parts, (asSubject part.1).IsParsed → part.2.IsTelling)
    (hParsed : ∀ x ∈ parts.map Prod.fst, (asSubject x).IsParsed) :
    ∀ type ∈ parts.map Prod.snd, type.IsTelling :=
  List.forall_mem_map.2 fun part hMem => ih part hMem (hParsed _ (List.mem_map_of_mem hMem))

/-- Only the top of a type matters, so the parts of generic types and lists have no say. -/
theorem Converts.isTelling (h : Converts ns subject t) (hParsed : subject.IsParsed) :
    t.IsTelling := by
  induction h with
  | literals | generic | items | valueItems | entries | literalForm | ordinary => trivial
  | none | ellipsis | noneName | dots => exact fun _ => rfl
  | relative | unbound => exact fun hBuiltin => absurd hBuiltin Bool.false_ne_true
  | typeVariable v => exact isTelling_variableType v
  | variablePart v keyword =>
    rw [variablePartType]
    split
    next => exact isTelling_variableType v
    next => exact fun hBuiltin => isTelling_variableType v hBuiltin
  | special name =>
    unfold specialType
    split
    next => exact fun hBuiltin => absurd hBuiltin Bool.false_ne_true
    next => exact fun _ => rfl
    next => exact fun _ => rfl
    next => exact fun hBuiltin => absurd hBuiltin Bool.false_ne_true
  | aliased hClass | cls hClass => exact isTelling_classType hClass
  | value _ ih | base _ ih | bare _ ih | forward _ ih | valueText _ _ ih | quoted _ _ ih
  | name _ _ _ ih | found _ _ ih => exact ih trivial
  | tree hTree _ ih => exact ih (HintText.isHint_isReadLiteral hTree).mono
  | alternatives _ ih => exact isTelling_unite (isTelling_parts ih fun _ _ => trivial)
  | members _ ih =>
    have hParts := Node.areHints_iff.1 hParsed.2
    exact isTelling_unite (isTelling_parts ih fun node hMem => (hParts node hMem).mono)
  | operands _ ih =>
    rw [TypeExpr.IsTelling, List.length_map, ← List.length_map Prod.fst]
    exact Nat.ne_of_gt hParsed.1
  | literal hText => exact Value.text_not_mem_nothingHints hParsed hText
  | optional _ _ ih =>
    have hTypes := isTelling_parts ih (Node.areHints_iff.1 hParsed.2)
    exact isTelling_unite (List.forall_mem_append.2
      ⟨hTypes, List.forall_mem_singleton.2 fun _ => rfl⟩)
  | union _ _ ih => exact isTelling_unite (isTelling_parts ih (Node.areHints_iff.1 hParsed.2))
  | annotated _ _ ih => exact ih hParsed.2.1

end Conversion

theorem TypeExpr.IsConverted.isTelling {t : TypeExpr} (h : t.IsConverted) : t.IsTelling := by
  obtain ⟨ns, places, ⟨object, hObject⟩ | ⟨node, hNode, hConverted⟩⟩ := h
  · exact (Conversion.converts_ofObject places object hObject).isTelling trivial
  · exact (Conversion.converts_ofNode places node hConverted).isTelling hNode

/-! ## Hints -/

/-- The classes that the relative names of a method can refer to. -/
def Method.owners (m : Method) : List NamedType :=
  m.declaring :: m.parent.toList

namespace Hint

variable {world : World} {m : Method} {top : Bool} {r : Rendered}

theorem not_mem_nothingHints_of_mem {text : String} {c : Char} (hChar : c.isAlpha = false)
    (h : c ∈ text.toList) : text ∉ nothingHints := by
  have hWords : ∀ word ∈ nothingHints, word.toList.all Char.isAlpha = true := by decide
  intro hMem
  exact Bool.false_ne_true (hChar.symm.trans (List.all_eq_true.1 (hWords text hMem) c h))

theorem mem_toList_append {c : Char} {mark : String} (hMark : c ∈ mark.toList)
    (before after : String) : c ∈ (before ++ mark ++ after).toList := by
  rw [String.toList_append, String.toList_append]
  exact List.mem_append_left _ (List.mem_append_right _ hMark)

/-- Only a builtin name is written as a word for nothing. -/
theorem eq_builtin_of_nameOf {t : NamedType} (hTelling : (TypeExpr.named t).IsTelling)
    (hOwners : ∀ owner ∈ m.owners, owner.isBuiltin = true → owner.name ∉ nothingHints)
    (h : nameOf world ⟨m, none⟩ t = .ok r) (hText : r.text ∈ nothingHints) :
    t.isBuiltin = true ∧ t.module = none ∧ t.name = r.text := by
  obtain ⟨resolved, hResolved, ⟨-, rfl⟩ | ⟨-, hBuiltin, rfl⟩ | ⟨-, -, hExists, rfl⟩⟩ :=
    nameOf_cases h
  · exact absurd hText (by decide)
  · rw [HintSite.resolve] at hResolved
    split at hResolved
    next =>
      cases hResolved
      exact absurd hText (hOwners _ List.mem_cons_self hBuiltin)
    next =>
      split at hResolved
      next =>
        split at hResolved
        next parent hParent =>
          cases hResolved
          have hMem : resolved ∈ m.owners :=
            List.mem_cons_of_mem _ (Option.mem_toList.2 hParent)
          exact absurd hText (hOwners _ hMem hBuiltin)
        next => cases hResolved
      next =>
        cases hResolved
        exact ⟨hBuiltin, hTelling hBuiltin, rfl⟩
  · cases hModule : resolved.module with
    | none =>
      rw [hModule] at hExists
      cases hExists
    | some module =>
      refine absurd hText (not_mem_nothingHints_of_mem (c := '.') rfl ?_)
      rw [NamedType.qualified, NamedType.qualifiedName, hModule]
      exact mem_toList_append (by decide) _ _

theorem eq_builtin_of_ofNamed {t : NamedType} (hTelling : (TypeExpr.named t).IsTelling)
    (hOwners : ∀ owner ∈ m.owners, owner.isBuiltin = true → owner.name ∉ nothingHints)
    (h : ofNamed world ⟨m, none⟩ top t = .ok r) (hText : r.text ∈ nothingHints) :
    t = .builtin r.text := by
  obtain ⟨name, hName, h⟩ := bind_eq_ok_iff.1 h
  split at h
  next hAny =>
    cases h
    exact absurd (hAny ▸ hText) (by decide)
  next =>
    cases h
    rw [HintSite.mark] at hText ⊢
    split at hText
    next =>
      have hBlank : ' ' ∈ (name.text ++ " | None" ++ "").toList :=
        mem_toList_append (by decide) _ _
      rw [String.append_empty] at hBlank
      exact absurd hText (not_mem_nothingHints_of_mem rfl hBlank)
    next hMark =>
      rw [if_neg hMark]
      obtain ⟨hBuiltin, hModule, hEq⟩ := eq_builtin_of_nameOf hTelling hOwners hName hText
      have hNullable : t.isNullable = false := by simpa [HintSite.hidesNullable] using hMark
      obtain ⟨tname, module, isBuiltin, isNullable⟩ := t
      cases hBuiltin
      cases hModule
      cases hEq
      cases hNullable
      rfl

theorem length_ofTypes {site : HintSite} {ts : List TypeExpr} {parts : List Rendered}
    (h : ofTypes world site top ts = .ok parts) : parts.length = ts.length := by
  induction ts generalizing parts with
  | nil =>
    cases h
    rfl
  | cons t ts ih =>
    obtain ⟨part, -, h⟩ := bind_eq_ok_iff.1 h
    obtain ⟨parts, hParts, ⟨⟩⟩ := bind_eq_ok_iff.1 h
    rw [List.length_cons, List.length_cons, ih hParts]

theorem separated_not_mem_nothingHints {mark : String} (hMark : ' ' ∈ mark.toList)
    {parts : List Rendered} (hLength : parts.length ≠ 1) :
    (separated mark parts).text ∉ nothingHints := by
  cases parts with
  | nil => exact (by decide : "" ∉ nothingHints)
  | cons first parts =>
    have hRest : parts.map Rendered.text ≠ [] := by
      rintro hNil
      rw [List.map_eq_nil_iff.1 hNil] at hLength
      exact hLength rfl
    rw [separated, List.map_cons, String.intercalate_cons_of_ne_nil hRest]
    exact not_mem_nothingHints_of_mem rfl (mem_toList_append hMark _ _)

/-- A hint that is a word for nothing is that of the builtin type of this name. -/
theorem eq_builtin_of_ofType {t : TypeExpr} (hTelling : t.IsTelling)
    (hOwners : ∀ owner ∈ m.owners, owner.isBuiltin = true → owner.name ∉ nothingHints)
    (h : ofType world ⟨m, none⟩ top t = .ok r) (hText : r.text ∈ nothingHints) :
    t = .named (.builtin r.text) := by
  cases t with
  | named t => exact congrArg _ (eq_builtin_of_ofNamed hTelling hOwners h hText)
  | union members | intersection members =>
    obtain ⟨parts, hParts, ⟨⟩⟩ := bind_eq_ok_iff.1 h
    have hLength : parts.length ≠ 1 := length_ofTypes hParts ▸ hTelling
    exact absurd hText (separated_not_mem_nothingHints (by decide) hLength)
  | generic origin arguments isNullable =>
    obtain ⟨name, -, h⟩ := bind_eq_ok_iff.1 h
    obtain ⟨parts, -, ⟨⟩⟩ := bind_eq_ok_iff.1 h
    have hOpen : '[' ∈ (HintSite.mark ⟨m, none⟩ top isNullable
        (name.text ++ "[" ++ (separated ", " parts).text ++ "]")).toList := by
      unfold HintSite.mark
      split
      next => simp
      next => simp
    exact absurd hText (not_mem_nothingHints_of_mem rfl hOpen)
  | list items =>
    obtain ⟨parts, -, ⟨⟩⟩ := bind_eq_ok_iff.1 h
    have hOpen : '[' ∈ ("[" ++ (separated ", " parts).text ++ "]").toList := by simp
    exact absurd hText (not_mem_nothingHints_of_mem rfl hOpen)
  | literal v =>
    cases h
    exact absurd hText hTelling

theorem text_of_builtin {name : String} (hName : name ∈ nothingHints)
    (h : ofType world ⟨m, none⟩ top (.named (.builtin name)) = .ok r) : r.text = name := by
  simp only [nothingHints, List.mem_cons, List.not_mem_nil, or_false] at hName
  obtain rfl | rfl | rfl := hName <;> cases h <;> rfl

end Hint

namespace ForwardingMethod

theorem not_returnsResult_iff {world : World} {m : Method} {f : ForwardingMethod}
    (hConverted : ∀ t ∈ m.returns, t.IsConverted)
    (hOwners : ∀ owner ∈ m.owners, owner.isBuiltin = true → owner.name ∉ nothingHints)
    (h : of world m = .ok f) :
    f.returnsResult = false ↔
      ∃ name ∈ nothingHints, m.returns = some (.named (.builtin name)) := by
  have hHint : m.returnHint world = .ok f.returnHint := by
    obtain ⟨hint, _, hHint, -, rfl⟩ := of_eq_ok h
    exact hHint
  rw [Method.returnHint] at hHint
  cases hReturns : m.returns with
  | none =>
    rw [hReturns] at hHint
    have hNone : f.returnHint = none := (Except.ok.inj hHint).symm
    rw [returnsResult, hNone]
    constructor
    · exact Bool.noConfusion
    · rintro ⟨name, -, hBuiltin⟩
      cases hBuiltin
  | some t =>
    rw [hReturns] at hHint
    obtain ⟨r, hType, hEq⟩ := map_eq_ok_iff.1 hHint
    rw [returnsResult, ← hEq, Bool.not_eq_false', isNothing, List.contains_iff_mem]
    constructor
    · intro hText
      have hTelling := (hConverted t hReturns).isTelling
      exact ⟨r.text, hText, congrArg some (Hint.eq_builtin_of_ofType hTelling hOwners hType hText)⟩
    · rintro ⟨name, hName, hBuiltin⟩
      cases hBuiltin
      exact Hint.text_of_builtin hName hType ▸ hName

end ForwardingMethod

def Attribute.isCoroutine : Attribute → Bool
  | .function r | .staticMethod r | .classMethod r => r.isCoroutine
  | .property _ | .descriptor | .native .. | .plain _ => false

namespace Surface

variable {world : World} {entry : Entry} {m : Method}

theorem isConverted_of_hintType {ns : Namespace} {hint : Option Object} {result : Option TypeExpr}
    (h : World.hintType ns hint = .ok result) : ∀ t ∈ result, t.IsConverted := by
  cases hint with
  | none =>
    cases h
    exact nofun
  | some object =>
    obtain ⟨t, hType, rfl⟩ := map_eq_ok_iff.1 h
    rintro t ⟨⟩
    exact ⟨ns, ns.places, .inl ⟨object, hType⟩⟩

theorem results_of_methodOf {c : ClassRef} {name : String} {isStatic hasReceiver : Bool}
    {r : Routine} (h : world.methodOf c name isStatic hasReceiver r = .ok m) :
    (∀ t ∈ m.returns, t.IsConverted) ∧ m.isAsync = r.isCoroutine := by
  obtain ⟨-, parameters, returns, -, hReturns, rfl⟩ := methodOf_eq_ok h
  exact ⟨isConverted_of_hintType hReturns, rfl⟩

/-- The result of a method of a class has a type that its annotation is converted to, and the
method is a coroutine function if the attribute is. -/
theorem results_of_describes (h : world.Describes entry m) :
    (∀ t ∈ m.returns, t.IsConverted) ∧ m.isAsync = entry.2.2.isCoroutine := by
  have hConverted := h.converted
  cases hItem : entry.2.2 with
  | function r | staticMethod r | classMethod r =>
    rw [hItem] at hConverted
    obtain ⟨m, hMethod, ⟨⟩⟩ := map_eq_ok_iff.1 hConverted
    exact results_of_methodOf hMethod
  | property | plain =>
    rw [hItem] at hConverted
    cases hConverted
  | descriptor =>
    rw [hItem] at hConverted
    cases hConverted
    exact ⟨nofun, rfl⟩
  | native label parameters ofClass =>
    rw [hItem] at hConverted
    cases parameters with
    | none =>
      cases hConverted
      exact ⟨nofun, rfl⟩
    | some parameters =>
      obtain ⟨m, hMethod, ⟨⟩⟩ := map_eq_ok_iff.1 hConverted
      exact results_of_methodOf hMethod

end Surface

/-- The last line of a forwarding method is the call of the wrapped collection. It is written
without `return` if and only if the type of the result is the builtin type `None`, `NoReturn` or
`Never` itself, whatever annotation it comes from. No class of these names may be the declaring
class or its parent, which the relative names stand for. The call is awaited, and the forwarding
method is a coroutine function, if and only if the method is one. -/
theorem result_returned_exactly {world : World} {m : Method} {f : ForwardingMethod}
    (hForwarding : ForwardingMethod.of world m = .ok f)
    (hConverted : ∀ t ∈ m.returns, t.IsConverted)
    (hOwners : ∀ owner ∈ m.owners, owner.isBuiltin = true → owner.name ∉ nothingHints) :
    (∀ returned awaited, f.EndsWithCall returned awaited ↔
      (returned = false ↔ ∃ name ∈ nothingHints, m.returns = some (.named (.builtin name))) ∧
        (awaited = true ↔ m.isAsync = true)) ∧
      (∀ isCoroutine, f.StartsDefinition isCoroutine ↔ (isCoroutine = true ↔ m.isAsync = true)) ∧
      ∀ entry, world.Describes entry m → m.isAsync = entry.2.2.isCoroutine := by
  have hAsync : f.isAsync = m.isAsync := by
    obtain ⟨hint, declaration, -, -, rfl⟩ := ForwardingMethod.of_eq_ok hForwarding
    rfl
  have hNothing := ForwardingMethod.not_returnsResult_iff hConverted hOwners hForwarding
  refine ⟨fun returned awaited => ?_, fun isCoroutine => ?_,
    fun entry hEntry => (Surface.results_of_describes hEntry).2⟩
  · rw [ForwardingMethod.endsWithCall_iff, hAsync, ← hNothing, ← Bool.eq_iff_iff]
    exact and_congr_left' (by cases returned <;> cases f.returnsResult <;> simp)
  · rw [ForwardingMethod.startsDefinition_iff, hAsync, Bool.eq_iff_iff]

namespace ReturnedResult.Sample

/-- A coroutine function that answers nothing. -/
def drain : Routine :=
  ⟨[⟨"self", .positionalOrKeyword, none, none⟩], some (.value .none), "store", false, true, true, 0⟩

def store : ClassRef := ⟨"store", "Store", 1, false⟩

def world : World where
  modules := []
  classes := [
    { ref := store, name := "Store", bases := [.objectClass], resolution := [store, .objectClass]
      attributes := [("drain", .function drain)] }]
  memory := []

def method : Method :=
  { name := "drain", declaring := .ofClass store, returns := some (.named .none), isAsync := true }

def forwarding : ForwardingMethod :=
  ⟨"drain", true, [.receiver], some ⟨"None", []⟩, []⟩

theorem describes_drain : world.Describes (store, "drain", .function drain) method := by
  have hNone (ns : Namespace) : (Object.value .none).toType ns = .ok (.named .none) := by
    rw [Object.toType, Conversion.ofObject, Conversion.ofValue]
  refine ⟨?_, rfl, rfl, rfl, rfl⟩
  simp only [World.introspectAttribute, World.methodOf, World.hintType, drain, hNone]
  rfl

end ReturnedResult.Sample

open ReturnedResult.Sample in
theorem result_returned_exactly_of_drain :
    world.Describes (store, "drain", .function drain) method ∧
      ForwardingMethod.of world method = .ok forwarding ∧
      forwarding.EndsWithCall false true ∧ ¬ forwarding.EndsWithCall true true ∧
      forwarding.StartsDefinition true := by
  have hForwarding : ForwardingMethod.of world method = .ok forwarding := rfl
  have hConverted := (Surface.results_of_describes describes_drain).1
  have hOwners : ∀ owner ∈ method.owners, owner.isBuiltin = true → owner.name ∉ nothingHints := by
    decide
  have hNothing : ∃ name ∈ nothingHints, method.returns = some (.named (.builtin name)) :=
    ⟨"None", by decide, rfl⟩
  obtain ⟨hEnds, hStarts, -⟩ := result_returned_exactly hForwarding hConverted hOwners
  refine ⟨describes_drain, hForwarding, (hEnds false true).2 ⟨iff_of_true rfl hNothing, Iff.rfl⟩,
    fun hReturned => ?_, (hStarts true).2 Iff.rfl⟩
  cases ((hEnds true true).1 hReturned).1.2 hNothing

end Interpose

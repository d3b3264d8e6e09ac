import Interpose.Proofs.Conversion.Derivations
import Interpose.Proofs.HintText.Expression
import Interpose.Proofs.LiveHint.Converted
import Interpose.Proofs.ReadHint
import Interpose.Proofs.RenderedHint
import Interpose.World.Library

/-! # Rendered hints are expressions

The text of a type is an expression if no union, intersection or subscript in the type is empty and
the notation of each literal in it is an expression. The type of an annotation is of this kind
unless the annotation leads to something empty or to a literal without such a notation, as a member
of an enumeration is.
-/
namespace Interpose

set_option autoImplicit false

/-! ## Values -/

namespace Text

theorem codeEscape_ascii (code : Nat) : ∀ c ∈ codeEscape code, c.toNat < 128 := by
  have hDigit : ∀ d : Fin 16, (hexDigit d).toNat < 128 := by decide
  have hDigits : ∀ {width n : Nat}, ∀ c ∈ hexDigits width n, c.toNat < 128 := by
    intro width n c hMem
    obtain ⟨d, hLess, rfl⟩ := mem_hexDigits hMem
    exact hDigit ⟨d, hLess⟩
  have hEscape : ∀ (letter : Char) (width : Nat), letter.toNat < 128 →
      ∀ c ∈ '\\' :: letter :: hexDigits width code, c.toNat < 128 := fun letter width hLetter =>
    List.forall_mem_cons.2 ⟨by decide, List.forall_mem_cons.2 ⟨hLetter, hDigits⟩⟩
  unfold codeEscape
  split
  · exact hEscape 'x' 2 (by decide)
  · split
    · exact hEscape 'u' 4 (by decide)
    · exact hEscape 'U' 8 (by decide)

theorem escapeChar_ascii {quote c : Char} (h : c.toNat < 128) :
    ∀ d ∈ escapeChar quote c, d.toNat < 128 := by
  have hPair : ∀ d : Char, d.toNat < 128 → ∀ e ∈ ['\\', d], e.toNat < 128 := fun d hD =>
    List.forall_mem_cons.2 ⟨by decide, List.forall_mem_singleton.2 hD⟩
  unfold escapeChar
  split
  · exact hPair c h
  split
  · exact hPair 'n' (by decide)
  split
  · exact hPair 'r' (by decide)
  split
  · exact hPair 't' (by decide)
  split
  · exact List.forall_mem_singleton.2 h
  · exact codeEscape_ascii c.toNat

theorem escapeByte_ascii (quote : Char) (b : UInt8) : ∀ c ∈ escapeByte quote b, c.toNat < 128 := by
  unfold escapeByte
  split
  next h => exact escapeChar_ascii (by rw [toNat_byteChar]; omega)
  next => exact codeEscape_ascii b.toNat

theorem isQuotable_flatMap {α : Type} {quote : Char} {point : α → CodePoint}
    {form : α → List Char} (hQuote : IsQuote quote)
    (hForm : ∀ x, IsForm quote (point x) (form x)) (xs : List α) :
    IsQuotable quote (xs.flatMap form) where
  isQuote := hQuote
  isContent := HintText.isContent_flatMap hQuote hForm xs
  isReadable := ⟨_, unescape_flatMap hForm xs⟩

end Text

namespace Value

mutual

/-- Whether the text of a value is an expression of the kind that type hints are made of. That of a
finite number is a number, that of an infinite one or of no number a name, which can have no sign.
A whole number must not be too long to be read. -/
def HasNotation : Value → Prop
  | .none | .bool _ | .str _ | .strSub _ | .brokenStr _ | .bytes _ | .ellipsis => True
  | .int n | .intSub n => (Nat.toDigits 10 n.natAbs).length ≤ HintText.digitLimit
  | .float x | .floatSub x => x ≠ .infinite true
  | .list items => HaveNotations items
  | .cls c => c = ClassRef.anyClass
  | _ => False

def HaveNotations : List Value → Prop
  | [] => True
  | v :: vs => HasNotation v ∧ HaveNotations vs

end

theorem isHintExpression_number {s : String} {n : Decimal.Numeral} {v : Value}
    (hTake : Decimal.takeNumber s.toList = some (n, [])) (hRead : HintText.readNumber n = some v) :
    IsHintExpression s := by
  obtain ⟨number, hNumber, hCut⟩ := Decimal.isNumber_of_takeNumber hTake
  rw [List.append_nil] at hCut
  exact .number (hCut ▸ hNumber) hRead

theorem isHintExpression_float {x : Decimal.Binary64} (h : x ≠ .infinite true) :
    IsHintExpression x.text := by
  cases x with
  | nan => exact .atom (by decide)
  | infinite negative =>
    cases negative with
    | false => exact .atom (by decide)
    | true => contradiction
  | finite negative magnitude =>
    obtain ⟨n, hWhole, hBinary, hReads⟩ := Decimal.takeNumber_text negative magnitude
    have hTake := hReads [] trivial
    rw [List.append_nil] at hTake
    have hRead : HintText.readNumber n = some (.float n.toBinary64) := by
      rw [HintText.readNumber, hWhole]
      rfl
    exact isHintExpression_number hTake hRead

theorem isHintExpression_bytes (content : List UInt8) :
    IsHintExpression (Text.quoteBytes content) := by
  have hQuote := Text.isQuote_quoteFor (content.map Text.byteChar)
  refine .bytes (Text.isQuotable_flatMap hQuote (Text.isForm_escapeByte hQuote) content) ?_
  intro c hMem
  obtain ⟨b, -, hMem⟩ := List.mem_flatMap.1 hMem
  exact Text.escapeByte_ascii _ b c hMem

theorem isHintExpression_str (s : String) : IsHintExpression (Text.quote s) := by
  have hQuote := Text.isQuote_quoteFor s.toList
  exact .text (Text.isQuotable_flatMap hQuote (Text.isForm_escapeChar hQuote) s.toList)

mutual

theorem isHintExpression_text (v : Value) (h : v.HasNotation) : IsHintExpression v.text := by
  cases v with
  | none | ellipsis => exact .atom (by decide)
  | bool b => cases b <;> exact .atom (by decide)
  | int n | intSub n =>
    have hTake := Decimal.takeNumber_repr n (show Decimal.EndsNumber [] from trivial)
    rw [List.append_nil] at hTake
    exact isHintExpression_number hTake (HintText.readNumber_whole h)
  | float x | floatSub x => exact isHintExpression_float h
  | str s | strSub s => exact isHintExpression_str s
  | brokenStr t =>
    have hQuote := Text.isQuote_quoteFor t.masked
    exact .text (Text.isQuotable_flatMap hQuote (Text.isForm_escapePoint hQuote) t.points)
  | bytes content => exact isHintExpression_bytes content
  | list items => exact .list (isHintExpression_texts items h)
  | cls c =>
    obtain rfl : c = ClassRef.anyClass := h
    exact .atom (by decide)
  | _ => exact h.elim

theorem isHintExpression_texts (vs : List Value) (h : HaveNotations vs) :
    ∀ item ∈ texts vs, IsHintExpression item := by
  cases vs with
  | nil => exact List.forall_mem_nil _
  | cons v vs =>
    exact List.forall_mem_cons.2 ⟨isHintExpression_text v h.1, isHintExpression_texts vs h.2⟩

end

end Value

/-! ## Types -/

namespace TypeExpr

mutual

/-- Whether a type has no empty union, intersection or list of arguments, and no literals other than
those with a notation. -/
def IsSound : TypeExpr → Prop
  | .named _ => True
  | .union members | .intersection members => members ≠ [] ∧ AreSound members
  | .generic _ arguments _ => arguments ≠ [] ∧ AreSound arguments
  | .list items => AreSound items
  | .literal v => v.HasNotation

def AreSound : List TypeExpr → Prop
  | [] => True
  | t :: ts => IsSound t ∧ AreSound ts

end

mutual

def names : TypeExpr → List NamedType
  | .named t => [t]
  | .union members | .intersection members | .list members => allNames members
  | .generic origin arguments _ => origin :: allNames arguments
  | .literal _ => []

def allNames : List TypeExpr → List NamedType
  | [] => []
  | t :: ts => names t ++ allNames ts

end

theorem areSound_iff {ts : List TypeExpr} : AreSound ts ↔ ∀ t ∈ ts, t.IsSound := by
  induction ts with
  | nil => exact ⟨fun _ => List.forall_mem_nil _, fun _ => trivial⟩
  | cons t ts ih => rw [List.forall_mem_cons, ← ih]; rfl

/-- The union of types that are sound is sound, since what becomes of it holds no other types. -/
theorem isSound_unite {ts : List TypeExpr} (hSome : ts ≠ []) (h : ∀ t ∈ ts, t.IsSound) :
    (unite ts).IsSound := by
  have hUnion : (TypeExpr.union ts).IsSound := ⟨hSome, areSound_iff.2 h⟩
  unfold unite
  split
  next member => exact h member List.mem_cons_self
  next a b =>
    split
    next => trivial
    next origin arguments isNullable hFilter =>
      have hMem : .generic origin arguments isNullable ∈ [a, b].filter (!·.isNone) := by
        rw [hFilter]
        exact List.mem_cons_self
      have hGeneric : (TypeExpr.generic origin arguments isNullable).IsSound :=
        h _ (List.mem_filter.1 hMem).1
      exact hGeneric
    next => exact hUnion
  next => exact hUnion

end TypeExpr

namespace Hint

variable {world : World} {site : HintSite}

theorem ofNamed_cases {top : Bool} {t : NamedType} {r : Rendered}
    (h : ofNamed world site top t = .ok r) :
    r.text = site.writtenName t ∨ r.text = site.writtenName t ++ " | None" := by
  obtain ⟨name, hName, h⟩ := Sequence.bind_eq_ok_iff.1 h
  rw [← text_nameOf hName]
  split at h
  next =>
    cases h
    exact .inl rfl
  next =>
    cases h
    dsimp only [HintSite.mark]
    split
    next => exact .inr rfl
    next => exact .inl rfl

theorem isHintExpression_mark {top isNullable : Bool} {text : String} (h : IsHintExpression text) :
    IsHintExpression (site.mark top isNullable text) := by
  unfold HintSite.mark
  split
  next => exact h.orNone
  next => exact h

/-- Where the name of a generic type is marked as nullable, the arguments stand behind `None`. -/
theorem isHintExpression_subscript {top : Bool} {origin : NamedType} {name : Rendered}
    {arguments : List String} (hName : ofNamed world site top origin = .ok name)
    (hOrigin : IsAtom (site.writtenName origin)) (hSome : arguments ≠ [])
    (h : ∀ argument ∈ arguments, IsHintExpression argument) :
    IsHintExpression (name.text ++ "[" ++ ", ".intercalate arguments ++ "]") := by
  rcases ofNamed_cases hName with hText | hText
  · rw [hText]
    exact .subscript hOrigin hSome h
  · have hNone : IsHintExpression ("None" ++ "[" ++ ", ".intercalate arguments ++ "]") :=
      .subscript (by decide) hSome h
    have hSplit : site.writtenName origin ++ " | None" ++ "[" ++ ", ".intercalate arguments ++ "]"
        = site.writtenName origin ++ " | "
          ++ ("None" ++ "[" ++ ", ".intercalate arguments ++ "]") := by
      simp only [append_none, String.append_assoc]
    rw [hText, hSplit]
    exact .either (.atom hOrigin) hNone

mutual

/-- The hint of a sound type whose names are written as atoms is an expression, at every site. -/
theorem isHintExpression_ofType {top : Bool} (t : TypeExpr) (hSound : t.IsSound)
    (hNames : ∀ name ∈ t.names, IsAtom (site.writtenName name)) {r : Rendered}
    (h : ofType world site top t = .ok r) : IsHintExpression r.text := by
  cases t with
  | named t =>
    have hAtom := hNames t List.mem_cons_self
    rcases ofNamed_cases h with hText | hText
    · rw [hText]
      exact .atom hAtom
    · rw [hText]
      exact (IsHintExpression.atom hAtom).orNone
  | literal v =>
    cases h
    exact v.isHintExpression_text hSound
  | list items =>
    obtain ⟨parts, hParts, h⟩ := Sequence.bind_eq_ok_iff.1 h
    cases h
    exact .list (isHintExpression_ofTypes items hSound hNames hParts).2
  | union members =>
    obtain ⟨parts, hParts, h⟩ := Sequence.bind_eq_ok_iff.1 h
    cases h
    obtain ⟨hSome, hTexts⟩ := isHintExpression_ofTypes members hSound.2 hNames hParts
    exact .join .bar (hSome hSound.1) hTexts
  | intersection members =>
    obtain ⟨parts, hParts, h⟩ := Sequence.bind_eq_ok_iff.1 h
    cases h
    obtain ⟨hSome, hTexts⟩ := isHintExpression_ofTypes members hSound.2 hNames hParts
    exact .join .ampersand (hSome hSound.1) hTexts
  | generic origin arguments isNullable =>
    obtain ⟨name, hName, h⟩ := Sequence.bind_eq_ok_iff.1 h
    obtain ⟨parts, hParts, h⟩ := Sequence.bind_eq_ok_iff.1 h
    cases h
    obtain ⟨hOrigin, hArguments⟩ := List.forall_mem_cons.1 hNames
    obtain ⟨hSome, hTexts⟩ := isHintExpression_ofTypes arguments hSound.2 hArguments hParts
    exact isHintExpression_mark (isHintExpression_subscript hName hOrigin (hSome hSound.1) hTexts)

theorem isHintExpression_ofTypes {top : Bool} (ts : List TypeExpr) (hSound : TypeExpr.AreSound ts)
    (hNames : ∀ name ∈ TypeExpr.allNames ts, IsAtom (site.writtenName name))
    {parts : List Rendered} (h : ofTypes world site top ts = .ok parts) :
    (ts ≠ [] → parts.map Rendered.text ≠ []) ∧
      ∀ text ∈ parts.map Rendered.text, IsHintExpression text := by
  cases ts with
  | nil =>
    cases h
    exact ⟨fun hSome => absurd rfl hSome, List.forall_mem_nil _⟩
  | cons t ts =>
    obtain ⟨part, hPart, h⟩ := Sequence.bind_eq_ok_iff.1 h
    obtain ⟨parts, hParts, h⟩ := Sequence.bind_eq_ok_iff.1 h
    cases h
    obtain ⟨hHere, hThere⟩ := List.forall_mem_append.1 hNames
    exact ⟨fun _ => List.cons_ne_nil _ _, List.forall_mem_cons.2
      ⟨isHintExpression_ofType t hSound.1 hHere hPart,
        (isHintExpression_ofTypes ts hSound.2 hThere hParts).2⟩⟩

end

end Hint

/-! ## Annotations -/

namespace Conversion

open HintText (Node)

/-- What an expression cannot be written for: a union of nothing, a literal type of no values or of
one without a notation, and in a text nothing in the brackets of a subscript or a literal without a
notation. -/
inductive Spoils (ns : Namespace) : Subject → Prop where
  | union (typed : Bool) : Spoils ns (.object (.union typed []))
  | noValues : Spoils ns (.object (.literal []))
  | value {values : List Value} {v : Value} (hMem : v ∈ values) (h : ¬ v.HasNotation) :
      Spoils ns (.object (.literal values))
  | subscript (origin : String) : Spoils ns (.node (.subscript origin []))
  | literal {v : Value} (h : ¬ v.HasNotation) : Spoils ns (.node (.literal v))
  | argument {origin : String} {arguments : List (Node Value)} {v : Value}
      (hForm : formIn ns origin arguments = .literal) (hMem : .literal v ∈ arguments)
      (h : ¬ v.HasNotation) : Spoils ns (.node (.subscript origin arguments))

/-- Whether an annotation leads to nothing that an expression cannot be written for. -/
def IsClean (ns : Namespace) (subject : Subject) : Prop :=
  ∀ culprit, Reaches ns subject culprit → ¬ Spoils ns culprit

/-- Whether a tree that is converted can have been read. -/
def Subject.IsRead : Subject → Prop
  | .node tree => tree.IsHint (fun _ => True) true
  | _ => True

variable {ns : Namespace} {subject : Subject} {t : TypeExpr}

theorem IsClean.part {part : Subject} (h : IsClean ns subject) (hLeads : Leads ns subject part) :
    IsClean ns part :=
  fun culprit hReaches => h culprit (.head hLeads hReaches)

theorem IsClean.here (h : IsClean ns subject) : ¬ Spoils ns subject :=
  h subject .refl

theorem IsClean.of_parts (hHere : ¬ Spoils ns subject)
    (hParts : ∀ part, Leads ns subject part → IsClean ns part) : IsClean ns subject := by
  intro culprit hReaches
  rcases Relation.ReflTransGen.cases_head hReaches with rfl | ⟨part, hLeads, hReaches⟩
  · exact hHere
  · exact hParts part hLeads culprit hReaches

theorem isSound_literalType {values : List Value} (hSome : values ≠ [])
    (h : ∀ v ∈ values, v.HasNotation) : (literalType values).IsSound :=
  ⟨List.map_eq_nil_iff.not.2 hSome, TypeExpr.areSound_iff.2 (List.forall_mem_map.2 h)⟩

theorem isSound_classType {c : ClassRef} (h : classType c = .ok t) : t.IsSound := by
  rw [classType] at h
  split at h
  next =>
    cases h
    trivial
  next =>
    split at h
    next => cases h
    next =>
      cases h
      trivial

section Parts

variable {α : Type} {parts : List (α × TypeExpr)} {asSubject : α → Subject}

theorem isSound_parts
    (ih : ∀ part ∈ parts, (asSubject part.1).IsRead → IsClean ns (asSubject part.1) →
      part.2.IsSound)
    (hRead : ∀ x ∈ parts.map Prod.fst, (asSubject x).IsRead) (hClean : IsClean ns subject)
    (hLeads : ∀ {x : α}, x ∈ parts.map Prod.fst → Leads ns subject (asSubject x)) :
    ∀ type ∈ parts.map Prod.snd, type.IsSound := by
  refine List.forall_mem_map.2 fun part hMem => ?_
  have hPart : part.1 ∈ parts.map Prod.fst := List.mem_map_of_mem hMem
  exact ih part hMem (hRead _ hPart) (hClean.part (hLeads hPart))

theorem types_ne_nil (h : parts.map Prod.fst ≠ []) : parts.map Prod.snd ≠ [] := by
  rw [Ne, List.map_eq_nil_iff] at h ⊢
  exact h

end Parts

/-- A clean annotation is converted to a sound type. -/
theorem Converts.isSound (h : Converts ns subject t) (hRead : subject.IsRead)
    (hClean : IsClean ns subject) : t.IsSound := by
  induction h with
  | value _ ih => exact ih trivial (hClean.part (.value _))
  | typeVariable | variablePart | special | none | ellipsis | relative | noneName | dots
  | unbound => trivial
  | aliased hClass | cls hClass => exact isSound_classType hClass
  | @alternatives typed parts _ ih =>
    have hSome : parts.map Prod.fst ≠ [] := fun hNone => hClean.here (hNone ▸ .union typed)
    exact TypeExpr.isSound_unite (types_ne_nil hSome)
      (isSound_parts ih (fun _ _ => trivial) hClean .unionMember)
  | literals values =>
    refine isSound_literalType (fun hNone => hClean.here (hNone ▸ .noValues)) fun v hMem => ?_
    exact Classical.byContradiction fun h => hClean.here (.value hMem h)
  | base _ ih => exact ih trivial (hClean.part (.base _ _))
  | bare _ ih => exact ih trivial (hClean.part (.origin _ _ _))
  | generic _ hSome _ _ ih =>
    exact ⟨List.map_eq_nil_iff.not.2 hSome, TypeExpr.areSound_iff.2
      (isSound_parts ih (fun _ _ => trivial) hClean .argument)⟩
  | items _ ih =>
    exact TypeExpr.areSound_iff.2 (isSound_parts ih (fun _ _ => trivial) hClean .item)
  | forward _ ih => exact ih trivial (hClean.part (.forward _))
  | valueText hText _ ih => exact ih trivial (hClean.part (.valueText hText))
  | valueItems _ ih =>
    exact TypeExpr.areSound_iff.2 (isSound_parts ih (fun _ _ => trivial) hClean .valueItem)
  | tree hParsed _ ih =>
    exact ih (HintText.isHint_of_parse hParsed).mono (hClean.part (.tree hParsed))
  | name hRelative hNone _ ih => exact ih trivial (hClean.part (.name hRelative hNone))
  | members _ ih =>
    have hSome := List.ne_nil_of_length_pos (Nat.lt_of_lt_of_le Nat.two_pos hRead.1)
    have hParts := Node.areHints_iff.1 hRead.2
    exact TypeExpr.isSound_unite (types_ne_nil hSome)
      (isSound_parts ih (fun node hMem => (hParts node hMem).mono) hClean .member)
  | operands _ ih =>
    have hSome := List.ne_nil_of_length_pos (Nat.lt_of_lt_of_le Nat.two_pos hRead.1)
    have hParts := Node.areHints_iff.1 hRead.2
    exact ⟨types_ne_nil hSome, TypeExpr.areSound_iff.2
      (isSound_parts ih (fun node hMem => (hParts node hMem).mono) hClean .operand)⟩
  | entries _ ih =>
    have hParts := Node.areHints_iff.1 hRead.2
    exact TypeExpr.areSound_iff.2
      (isSound_parts ih (fun node hMem => (hParts node hMem).mono) hClean .entry)
  | @quoted v text t hText _ ih =>
    have hQuoted : textOf? v = some text := by
      cases v with
      | str | brokenStr => exact hText
      | _ => cases hText
    exact ih trivial (hClean.part (.quoted hQuoted))
  | literal _ => exact Classical.byContradiction fun h => hClean.here (.literal h)
  | optional hForm _ ih =>
    have hArguments := Node.areHints_iff.1 hRead.2
    have hTypes := isSound_parts ih hArguments hClean
      (.nodeArgument (by simp [hForm]) (by simp [hForm]))
    exact TypeExpr.isSound_unite (List.append_ne_nil_of_right_ne_nil _ (List.cons_ne_nil _ _))
      (List.forall_mem_append.2 ⟨hTypes, List.forall_mem_singleton.2 trivial⟩)
  | @union origin parts hForm _ ih =>
    have hSome : parts.map Prod.fst ≠ [] := fun hNone => hClean.here (hNone ▸ .subscript origin)
    have hArguments := Node.areHints_iff.1 hRead.2
    exact TypeExpr.isSound_unite (types_ne_nil hSome) (isSound_parts ih hArguments hClean
      (.nodeArgument (by simp [hForm]) (by simp [hForm])))
  | @literalForm origin values hForm =>
    refine isSound_literalType (fun hNone => hClean.here (hNone ▸ .subscript origin))
      fun v hMem => ?_
    exact Classical.byContradiction fun h =>
      hClean.here (.argument hForm (List.mem_map_of_mem hMem) h)
  | annotated hForm _ ih => exact ih hRead.2.1 (hClean.part (.nodeBase hForm))
  | @ordinary origin base t parts hForm _ _ _ _ ih =>
    have hSome : parts.map Prod.fst ≠ [] := fun hNone => hClean.here (hNone ▸ .subscript origin)
    have hArguments := Node.areHints_iff.1 hRead.2
    exact ⟨types_ne_nil hSome, TypeExpr.areSound_iff.2 (isSound_parts ih hArguments hClean
      (.nodeArgument (by simp [hForm]) (by simp [hForm])))⟩
  | found hFind _ ih => exact ih trivial (hClean.part (.found hFind))

end Conversion

/-- The hint of an annotation is an expression, at every method and parameter, if the annotation
leads to nothing that spoils it and the names in its type are written as dotted names. Generated
source with such a hint passes the check of its hints. -/
theorem hint_is_expression {ns : Namespace} {object : Object} {t : TypeExpr}
    (hType : object.toType ns = .ok t) (hClean : Conversion.IsClean ns (.object object))
    (world : World) {site : HintSite} (hNames : ∀ name ∈ t.names, IsAtom (site.writtenName name))
    {top : Bool} {r : Rendered} (hHint : Hint.ofType world site top t = .ok r) :
    IsHintExpression r.text ∧ isHintExpression r.text = true := by
  have hSound : t.IsSound := (Conversion.converts_of_toType hType).isSound trivial hClean
  have hExpression := Hint.isHintExpression_ofType t hSound hNames hHint
  exact ⟨hExpression, hExpression.isHintExpression⟩

namespace HintExpression.Sample

def palette : ClassRef := ⟨"m", "Palette", 1, false⟩

def color : ClassRef := ⟨"m", "Color", 2, true⟩

def world : World :=
  { World.library with
    modules := ⟨"m", false, [("Palette", .cls palette), ("Color", .cls color)]⟩
      :: World.library.modules }

def ns : Namespace := world.namespaceOf "m"

/-- The parameter of a method. -/
def site : HintSite :=
  ⟨{ name := "add", declaring := .ofClass palette },
    some { name := "item", kind := .positionalOrKeyword }⟩

def values : List Value := [.str "it's", .int (-7), .bytes [0, 255], .bool true]

/-- A list of some values, or nothing. -/
def optionalList : Object :=
  .union true [.generic false (.value (.cls (.builtin "list"))) [.literal values], .value .none]

def type : TypeExpr := .generic (.builtin "list") [Conversion.literalType values] true

theorem toType_optionalList : optionalList.toType ns = .ok type := by
  have hList : Conversion.classType (.builtin "list") = .ok (.named (.builtin "list")) := rfl
  simp only [optionalList, Object.toType, Conversion.ofObject, Conversion.ofObjects,
    Conversion.ofValue, hList, bind, Except.bind]
  rfl

open Conversion in
theorem isClean_optionalList : IsClean ns (.object optionalList) := by
  have hValues : ∀ v ∈ values, v.HasNotation := by
    have hDigits : (Nat.toDigits 10 7).length ≤ HintText.digitLimit := by decide
    simp [values, Value.HasNotation, hDigits]
  have hLiterals : IsClean ns (.object (.literal values)) := by
    refine .of_parts (fun h => ?_) nofun
    cases h with
    | value hMem h => exact h (hValues _ hMem)
  have hNone : IsClean ns (.object (.value .none)) := by
    refine .of_parts nofun fun part h => ?_
    cases h with
    | value => exact .of_parts nofun fun part h => by cases h; contradiction
  have hList : IsClean ns (.object (.value (.cls (.builtin "list")))) := by
    refine .of_parts nofun fun part h => ?_
    cases h with
    | value => exact .of_parts nofun fun part h => by cases h; contradiction
  refine .of_parts nofun fun part h => ?_
  cases h with
  | unionMember hMem =>
    rcases List.mem_pair.1 hMem with rfl | rfl
    · refine .of_parts nofun fun part h => ?_
      cases h with
      | origin => exact hList
      | argument hMem => exact List.mem_singleton.1 hMem ▸ hLiterals
    · exact hNone

/-- A literal type of a member of an enumeration. -/
def red : Object := .literal [.member color .plain "RED" (.int 1)]

theorem toType_red :
    red.toType ns = .ok (Conversion.literalType [.member color .plain "RED" (.int 1)]) := by
  rw [red, Object.toType, Conversion.ofObject]

/-- The type of a list with nothing in the brackets. -/
def bareList : TypeExpr := .generic (.builtin "list") [] false

theorem parse_bareList : HintText.parse "list[]" = .ok (.subscript "list" []) := by
  have hHint : (HintText.Node.subscript "list" []).IsHint Value.IsHintLiteral false :=
    ⟨by decide, trivial⟩
  have hWritten : (HintText.Node.subscript "list" []).written = "list[]" := rfl
  exact hWritten ▸ HintText.parse_written hHint

theorem toType_bareList : (Object.value (.str "list[]")).toType ns = .ok bareList := by
  have hFind : (ns.find "list").map Found.object = some (.value (.cls (.builtin "list"))) := rfl
  have hClass : ClassRef.builtin "list" ≠ ClassRef.genericClass := by decide
  have hList : Conversion.ofObject ns ns.places (.value (.cls (.builtin "list")))
      = .ok (.named (.builtin "list")) := by
    rw [Conversion.ofObject, Conversion.ofValue]
    rfl
  rw [toType_text parse_bareList, Conversion.ofNode_ordinary hFind hClass hList rfl,
    Conversion.ofNodes]
  rfl

end HintExpression.Sample

open HintExpression.Sample in
theorem hint_is_expression_of_values :
    optionalList.toType ns = .ok type ∧ Conversion.IsClean ns (.object optionalList) ∧
      (∀ name ∈ type.names, IsAtom (site.writtenName name)) ∧
      ∃ r, Hint.ofType world site true type = .ok r ∧ IsHintExpression r.text ∧
        r.text = "list[typing.Literal[\"it's\", -7, b'\\x00\\xff', True]] | None" := by
  have hNames : ∀ name ∈ type.names, IsAtom (site.writtenName name) := by decide
  refine ⟨toType_optionalList, isClean_optionalList, hNames, _, rfl, ?_, rfl⟩
  exact (hint_is_expression toType_optionalList isClean_optionalList world hNames rfl).1

open HintExpression.Sample in
/-- The text of a member of an enumeration is no source, and a text with nothing in the brackets of
a subscript is converted as it is. -/
theorem hint_is_no_expression :
    (red.toType ns = .ok (Conversion.literalType [.member color .plain "RED" (.int 1)]) ∧
      Hint.ofType world site true (Conversion.literalType [.member color .plain "RED" (.int 1)])
        = .ok ⟨"typing.Literal[<Color.RED: 1>]", ["typing"]⟩ ∧
      isHintExpression "typing.Literal[<Color.RED: 1>]" = false ∧
      ¬ IsHintExpression "typing.Literal[<Color.RED: 1>]") ∧
    ((Object.value (.str "list[]")).toType ns = .ok bareList ∧
      Hint.ofType world site true bareList = .ok ⟨"list[]", []⟩ ∧
      isHintExpression "list[]" = false ∧ ¬ IsHintExpression "list[]") := by
  have hMember : isHintExpression "typing.Literal[<Color.RED: 1>]" = false := by decide +kernel
  have hEmpty : isHintExpression "list[]" = false := by decide +kernel
  have hRefuted : ∀ {s : String}, isHintExpression s = false → ¬ IsHintExpression s :=
    fun hFalse h => Bool.false_ne_true (hFalse.symm.trans h.isHintExpression)
  exact ⟨⟨toType_red, rfl, hMember, hRefuted hMember⟩,
    ⟨toType_bareList, rfl, hEmpty, hRefuted hEmpty⟩⟩

end Interpose

import Interpose.Hint
import Interpose.Proofs.Literal.Notation

/-! # Default values that are literals

A default value that is built from `None`, truth values, numbers, texts and byte strings by tuples
and frozen sets is written as a literal on one line. Read as a literal, the text denotes the same
value with the same types at every level, so no two such values are written alike. A value that
holds anything without such a notation, however deep, is not written but looked up.
-/
namespace Interpose

set_option autoImplicit false

/-! ## Plain values -/

namespace Value

mutual

/-- Whether a value is built from scalars by tuples and frozen sets, all of the exact types. Whole
numbers must not be too long to be read and floating-point numbers have to be finite. No two items
of a frozen set are the same item. -/
def IsPlain : Value → Prop
  | .none | .bool _ | .str _ | .brokenStr _ | .bytes _ => True
  | .int n => (Nat.toDigits 10 n.natAbs).length ≤ HintText.digitLimit
  | .float x => x.isFinite = true
  | .tuple items => ArePlain items
  | .frozenset items => ArePlain items ∧ items.Pairwise fun x y => isSameItem x y = false
  | _ => False

def ArePlain : List Value → Prop
  | [] => True
  | v :: vs => IsPlain v ∧ ArePlain vs

end

mutual

theorem IsPlain.isLiteral {v : Value} (h : v.IsPlain) : v.isLiteral = true := by
  cases v with
  | none | bool | int | str | brokenStr | bytes => rfl
  | float => exact h
  | tuple items => exact ArePlain.areLiteral h
  | frozenset items => exact ArePlain.areLiteral h.1
  | _ => exact h.elim

theorem ArePlain.areLiteral {vs : List Value} (h : ArePlain vs) : areLiteral vs = true := by
  cases vs with
  | nil => rfl
  | cons v vs => exact Bool.and_eq_true_iff.2 ⟨IsPlain.isLiteral h.1, ArePlain.areLiteral h.2⟩

end

mutual

theorem IsPlain.isHashable {v : Value} (h : v.IsPlain) : v.isHashable = true := by
  cases v with
  | none | bool | int | str | brokenStr | bytes | float => rfl
  | tuple items => exact ArePlain.areHashable h
  | frozenset items => exact ArePlain.areHashable h.1
  | _ => exact h.elim

theorem ArePlain.areHashable {vs : List Value} (h : ArePlain vs) : areHashable vs = true := by
  cases vs with
  | nil => rfl
  | cons v vs => exact Bool.and_eq_true_iff.2 ⟨IsPlain.isHashable h.1, ArePlain.areHashable h.2⟩

end

theorem distinct_of_pairwise {vs : List Value}
    (h : vs.Pairwise fun x y => isSameItem x y = false) : distinct vs = vs := by
  induction h with
  | nil => rfl
  | cons hFirst _ ih =>
    rw [distinct, ih, List.filter_eq_self.2]
    exact fun other hMem => by rw [hFirst other hMem, Bool.not_false]

/-- What a container holds. -/
def parts : Value → List Value
  | .tuple items | .tupleSub items | .list items | .set items | .frozenset items => items
  | .dict entries => entries.flatMap fun entry => [entry.1, entry.2]
  | _ => []

/-- Whether a value is another one or is held by it at some depth. -/
inductive IsWithin (part : Value) : Value → Prop where
  | here : IsWithin part part
  | inside {container item : Value} (hItem : item ∈ container.parts) (h : IsWithin part item) :
      IsWithin part container

/-- The values without a literal notation: members of enumerations, numbers that are not finite,
and containers that can be changed. -/
def IsUnwritten : Value → Prop
  | .member .. | .list _ | .set _ | .dict _ => True
  | .float x | .floatSub x => x.isFinite = false
  | _ => False

theorem areLiteral_eq_false {vs : List Value} {v : Value} (hMem : v ∈ vs)
    (h : v.isLiteral = false) : areLiteral vs = false := by
  induction vs with
  | nil => cases hMem
  | cons first vs ih =>
    rw [areLiteral, Bool.and_eq_false_iff]
    rcases List.mem_cons.1 hMem with rfl | hOther
    · exact .inl h
    · exact .inr (ih hOther)

theorem IsWithin.isLiteral {part v : Value} (h : part.IsWithin v) (hPart : part.IsUnwritten) :
    v.isLiteral = false := by
  induction h with
  | here =>
    cases part with
    | float | floatSub => exact hPart
    | member | list | set | dict => rfl
    | _ => exact hPart.elim
  | @inside container item hItem _ ih =>
    cases container with
    | tuple | frozenset => exact areLiteral_eq_false hItem ih
    | tupleSub | list | set | dict => rfl
    | _ => cases hItem

end Value

namespace Literal

/-! ## Notations -/

theorem toList_tupleText (item next : String) (items : List String) :
    (Value.tupleText (item :: next :: items)).toList
      = '(' :: ((Value.commaSeparated (item :: next :: items)).toList ++ [')']) := by
  rw [Value.tupleText, String.toList_append, String.toList_append]
  · rfl
  · exact nofun

theorem toList_frozensetText (item : String) (items : List String) :
    (Value.frozensetText (item :: items)).toList = "frozenset".toList ++ '(' :: '\x7b' ::
      ((Value.commaSeparated (item :: items)).toList ++ ['\x7d', ')']) := by
  rw [Value.frozensetText, String.toList_append, String.toList_append]
  · rfl
  · exact nofun

mutual

/-- A plain value is denoted by its text. -/
theorem denotes_of_isPlain {v : Value} (h : v.IsPlain) : Denotes v.text.toList v := by
  cases v with
  | none => exact denotes_word (by decide) (by decide) rfl rfl fun _ => rfl
  | bool b =>
    cases b with
    | true => exact denotes_word (by decide) (by decide) rfl rfl fun _ => rfl
    | false => exact denotes_word (by decide) (by decide) rfl rfl fun _ => rfl
  | int n =>
    exact denotes_number (fun rest => Decimal.takeNumber_repr n) (HintText.readNumber_whole h)
  | float x =>
    cases x with
    | finite negative magnitude =>
      obtain ⟨n, hWhole, hBinary, hReads⟩ := Decimal.takeNumber_text negative magnitude
      refine denotes_number hReads ?_
      rw [HintText.readNumber, hWhole, hBinary]
      rfl
    | nan | infinite _ => exact absurd (show false = true from h) Bool.false_ne_true
  | str s =>
    have hText := denotes_text (Text.isQuote_quoteFor s.toList) (s.toList.map .char)
    rw [Value.ofCodePoints_chars, List.flatMap_map] at hText
    rw [Value.text, Text.quote, String.toList_ofList]
    exact hText
  | brokenStr t =>
    have hText := denotes_text (Text.isQuote_quoteFor t.masked) t.points
    rw [Value.ofCodePoints_broken] at hText
    rw [Value.text, Text.quoteBroken, String.toList_ofList]
    exact hText
  | bytes content =>
    rw [Value.text, Text.quoteBytes, String.toList_ofList]
    exact denotes_bytes (Text.isQuote_quoteFor _) content
  | tuple items =>
    match items, h with
    | [], _ => exact denotes_emptyTuple
    | [v], h =>
      have hSingle := (denotes_of_isPlain h.1).single
      rw [Value.text, Value.texts, Value.texts, Value.tupleText, String.toList_append,
        String.toList_append]
      exact hSingle
    | v :: w :: vs, h =>
      have hRow := denotesRow_of_arePlain h (List.cons_ne_nil _ _)
      rw [Value.text, Value.texts, Value.texts, toList_tupleText]
      exact hRow.tuple (Nat.le_add_left 2 vs.length)
  | frozenset items =>
    match items, h with
    | [], _ => exact denotes_emptyFrozenset
    | v :: vs, h =>
      have hRow := denotesRow_of_arePlain h.1 (List.cons_ne_nil _ _)
      rw [Value.text, Value.texts, toList_frozensetText]
      exact hRow.frozenset (List.cons_ne_nil _ _) h.1.areHashable (Value.distinct_of_pairwise h.2)
  | _ => exact h.elim

theorem denotesRow_of_arePlain {vs : List Value} (h : Value.ArePlain vs) (hSome : vs ≠ []) :
    DenotesRow (Value.commaSeparated (Value.texts vs)).toList vs := by
  match vs, h with
  | [v], h =>
    rw [Value.texts, Value.texts, Value.commaSeparated, String.intercalate_singleton]
    exact (denotes_of_isPlain h.1).row
  | v :: w :: vs, h =>
    have hRow := denotesRow_of_arePlain h.2 (List.cons_ne_nil w vs)
    have hFirst := (denotes_of_isPlain h.1).cons hRow (List.cons_ne_nil w vs)
    rw [Value.texts, Value.texts, Value.commaSeparated, String.intercalate_cons_cons,
      String.toList_append, String.toList_append, List.append_assoc]
    exact hFirst

end

end Literal

/-! ## Default values -/

/-- The characters at which a source text is cut into lines, those of other texts included. -/
def Text.lineBreaks : List Char :=
  [10, 11, 12, 13, 28, 29, 30, 133, 8232, 8233].map Char.ofNat

theorem Text.ArePrintable.not_mem_lineBreaks {cs : List Char} (h : ArePrintable cs) :
    ∀ c ∈ cs, c ∉ lineBreaks := by
  have hBreaks : lineBreaks.all (isPrintable · == false) = true := by decide +kernel
  intro c hMem hBreak
  have hOther := beq_iff_eq.1 (List.all_eq_true.1 hBreaks c hBreak)
  exact Bool.false_ne_true (hOther.symm.trans (h c hMem))

namespace DefaultExpr

variable {m : Method} {p : Parameter} {v : Value}

theorem of_default (hDefault : p.default = some v) :
    of m p = if v.isLiteral then .literal v else .declared m.declaring m.name p.name := by
  rw [of, hDefault]
  rfl

theorem of_isPlain (hDefault : p.default = some v) (h : v.IsPlain) : of m p = .literal v := by
  rw [of_default hDefault, if_pos h.isLiteral]

theorem read?_of_isPlain (hDefault : p.default = some v) (h : v.IsPlain) :
    Literal.read? (of m p).render.text = some v := by
  rw [of_isPlain hDefault h]
  exact (Literal.denotes_of_isPlain h).read?

end DefaultExpr

/-- A plain default value is written as a literal, on one line, that denotes the value itself with
all its types; so it is the only plain default value that is written like that. A default value that
is or holds a member of an enumeration, a number that is not finite or a list, dictionary or set is
no literal and is looked up. -/
theorem literal_default_read_back (m : Method) (p : Parameter) {v : Value}
    (hDefault : p.default = some v) :
    (v.IsPlain →
      v.isLiteral = true ∧ DefaultExpr.of m p = .literal v ∧
      Literal.read? (DefaultExpr.of m p).render.text = some v ∧
      (∀ c ∈ (DefaultExpr.of m p).render.text.toList, c ∉ Text.lineBreaks) ∧
      ∀ m' p' v', p'.default = some v' → v'.IsPlain →
        (DefaultExpr.of m' p').render.text = (DefaultExpr.of m p).render.text → v' = v) ∧
    ∀ part : Value, part.IsWithin v → part.IsUnwritten →
      v.isLiteral = false ∧ DefaultExpr.of m p = .declared m.declaring m.name p.name := by
  constructor
  · intro h
    have hWritten : DefaultExpr.of m p = .literal v := DefaultExpr.of_isPlain hDefault h
    have hRead := DefaultExpr.read?_of_isPlain (m := m) hDefault h
    refine ⟨h.isLiteral, hWritten, hRead, ?_, ?_⟩
    · rw [hWritten]
      exact (Literal.denotes_of_isPlain h).printable.not_mem_lineBreaks
    · intro m' p' v' hOther hPlain hSame
      have hThere := DefaultExpr.read?_of_isPlain (m := m') hOther hPlain
      rw [hSame, hRead] at hThere
      exact (Option.some.inj hThere).symm
  · intro part hWithin hPart
    have hLiteral := hWithin.isLiteral hPart
    rw [DefaultExpr.of_default hDefault, hLiteral]
    exact ⟨rfl, rfl⟩

namespace LiteralDefault.Sample

/-- A tuple of a text with a quote and a line feed, bytes, and a frozen set with a tuple in it. -/
def content : Value :=
  .tuple [.str "it's\n", .bytes [0, 255], .frozenset [.int (-7), .tuple [.none]], .tuple []]

def item : Parameter := { name := "item", kind := .positionalOrKeyword, default := some content }

/-- A tuple that holds a list. -/
def holder : Value := .tuple [.int 1, .list []]

def other : Parameter := { name := "other", kind := .positionalOrKeyword, default := some holder }

def add : Method := { name := "add", declaring := .builtin "list", parameters := [item, other] }

def text : String :=
  "(\"it's\\n\", b'\\x00\\xff', frozenset(\x7b-7, (None,)\x7d), ())"

end LiteralDefault.Sample

open LiteralDefault.Sample in
theorem literal_default_read_back_of_tuple :
    content.IsPlain ∧ (DefaultExpr.of add item).render.text = text ∧
      Literal.read? text = some content ∧ holder.isLiteral = false ∧
      DefaultExpr.of add other = .declared (.builtin "list") "add" "other" := by
  have hDigits : (Nat.toDigits 10 7).length ≤ HintText.digitLimit := by decide
  have hDistinct : [Value.int (-7), .tuple [.none]].Pairwise fun x y => x.isSameItem y = false :=
    .cons (List.forall_mem_singleton.2 (by simp [Value.isSameItem]))
      (.cons (List.forall_mem_nil _) .nil)
  have hPlain : content.IsPlain :=
    ⟨trivial, trivial, ⟨⟨hDigits, ⟨trivial, trivial⟩, trivial⟩, hDistinct⟩, trivial, trivial⟩
  have hText : (DefaultExpr.of add item).render.text = text := by decide +kernel
  have hWithin : (Value.list []).IsWithin holder :=
    .inside (List.mem_cons_of_mem _ List.mem_cons_self) .here
  obtain ⟨-, -, hRead, -⟩ := (literal_default_read_back add item rfl).1 hPlain
  refine ⟨hPlain, hText, hText ▸ hRead, ?_⟩
  exact (literal_default_read_back add other rfl).2 _ hWithin trivial

end Interpose

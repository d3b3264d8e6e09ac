import Interpose.Proofs.HintText.Written
import Interpose.Proofs.LiveHint.Converted
import Interpose.Proofs.ReadHint
import Interpose.World.Library

/-! # Quoted annotations

The notation of a text is itself the text of an annotation. It is read as a literal that holds the
text, and a literal that holds a text is converted as that text is, so an annotation means the same
however often it is quoted. Among the arguments of a literal type the text itself is the value.
-/
namespace Interpose

set_option autoImplicit false

open HintText

/-- The notation of a value, as a text of its own. -/
def Value.quoted (v : Value) : Value :=
  .str v.text

namespace HintText

/-! ## The notation of a text -/

theorem parse_text_ofCodePoints (points : List Text.CodePoint) :
    parse (Value.ofCodePoints points).text = .ok (.literal (Value.ofCodePoints points)) := by
  have hLiteral : (Value.ofCodePoints points).IsHintLiteral := by
    unfold Value.ofCodePoints
    split <;> trivial
  have hWritten : (Node.literal (Value.ofCodePoints points)).written
      = (Value.ofCodePoints points).text := String.ofList_toList
  rw [← hWritten]
  exact parse_written hLiteral

/-! ## Literals in a row -/

theorem IsSpelt.append {cs ds : List Char} {tokens more : List Token} (h : IsSpelt cs tokens)
    (hMore : IsSpelt ds more) : IsSpelt (cs ++ ds) (tokens ++ more) := by
  induction h with
  | nil => exact hMore
  | blank hBlank _ ih => exact .blank hBlank ih
  | token hLexeme _ ih =>
    rw [List.append_assoc]
    exact .token hLexeme ih

theorem IsSpelt.mark {c : Char} {token : Token} (h : (c, token) ∈ marks) : IsSpelt [c] [token] :=
  .token (.mark h) .nil

theorem isSpelt_dotted {dotted : String} (h : Node.IsDotted dotted) :
    IsSpelt dotted.toList (nameTokens dotted) :=
  isSpelt_of_tokens? (lexes_dotted h).tokens?

/-- Whether a text is a literal by itself, perhaps in parentheses or among blanks. -/
def IsLiteralText (text : String) (v : Value) : Prop :=
  parse text = .ok (.literal v)

theorem IsLiteralText.exists_phrase {text : String} {v : Value} (h : IsLiteralText text v) :
    ∃ phrase : Phrase, IsSpelt text.toList phrase.tokens ∧
      Derives .union phrase.tokens phrase.tree ∧
      phrase.tree.mapLeaves? Spelling.read? = some (.literal v) := by
  obtain ⟨spelled, hSpelled, hRead⟩ := parse_eq_ok_iff.1 h
  obtain ⟨tokens, hSpelt, hDerives⟩ := spelled?_eq_some_iff.1 hSpelled
  exact ⟨⟨tokens, spelled⟩, hSpelt, hDerives, hRead⟩

/-- Literals with commas between them spell a row of phrases. -/
theorem exists_phrases {members : List (String × Value)}
    (h : ∀ member ∈ members, IsLiteralText member.1 member.2) :
    ∃ phrases : List Phrase,
      IsSpelt (", ".intercalate (members.map Prod.fst)).toList (joined .comma phrases) ∧
      (∀ phrase ∈ phrases, Derives .union phrase.tokens phrase.tree) ∧
      Node.mapAllLeaves? Spelling.read? (phrases.map Phrase.tree)
        = some ((members.map Prod.snd).map .literal) ∧ phrases.length = members.length := by
  induction members with
  | nil => exact ⟨[], .nil, List.forall_mem_nil _, rfl, rfl⟩
  | cons member members ih =>
    rw [List.forall_mem_cons] at h
    obtain ⟨first, hFirst, hDerives, hRead⟩ := h.1.exists_phrase
    obtain ⟨phrases, hRow, hAll, hReadAll, hLength⟩ := ih h.2
    refine ⟨first :: phrases, ?_, List.forall_mem_cons.2 ⟨hDerives, hAll⟩, ?_, ?_⟩
    · cases members with
      | nil =>
        obtain rfl : phrases = [] := List.length_eq_zero_iff.1 hLength
        rw [List.map_singleton, String.intercalate_singleton]
        simpa [joined] using hFirst
      | cons next members =>
        obtain ⟨second, others, rfl⟩ := List.exists_cons_of_length_eq_add_one hLength
        have hComma : IsSpelt [',', ' '] [.comma] :=
          (IsSpelt.mark (show (',', Token.comma) ∈ marks by decide)).append (.blank rfl .nil)
        have hSpelt := hFirst.append (hComma.append hRow)
        have hRest : List.map Prod.fst (next :: members) ≠ [] := List.cons_ne_nil _ _
        rw [List.map_cons, String.intercalate_cons_of_ne_nil hRest, String.toList_append,
          String.toList_append, List.append_assoc]
        exact hSpelt
    · rw [List.map_cons, List.map_cons, List.map_cons, Node.mapAllLeaves?, hRead, hReadAll]
      rfl
    · rw [List.length_cons, List.length_cons, hLength]

/-- A name and literals in brackets are read as a subscript of their values. -/
theorem parse_literals {origin : String} (hOrigin : Node.IsDotted origin)
    {members : List (String × Value)}
    (h : ∀ member ∈ members, IsLiteralText member.1 member.2) :
    parse (origin ++ "[" ++ ", ".intercalate (members.map Prod.fst) ++ "]")
      = .ok (.subscript origin ((members.map Prod.snd).map .literal)) := by
  obtain ⟨phrases, hRow, hAll, hRead, -⟩ := exists_phrases h
  have hOpen : IsSpelt ['['] [.openBracket] := .mark (by decide)
  have hClose : IsSpelt [']'] [.closeBracket] := .mark (by decide)
  have hSpelt := (isSpelt_dotted hOrigin).append (hOpen.append (hRow.append hClose))
  have hRowOf : IsRow phrases (joined .comma phrases) := .plain
  have hDerives := Derives.subscript (isName_nameTokens origin)
    (fun phrase hMem => .type (hAll phrase hMem)) hRowOf
  refine parse_eq_ok_iff.2 ⟨.subscript origin (phrases.map Phrase.tree), ?_, ?_⟩
  · refine spelled?_eq_some_iff.2 ⟨_, ?_, .member (.operand hDerives)⟩
    have hChars : "[".toList = ['['] ∧ "]".toList = [']'] := ⟨rfl, rfl⟩
    simpa only [String.toList_append, List.append_assoc, List.cons_append, List.nil_append,
      hChars.1, hChars.2] using hSpelt
  · rw [Node.mapLeaves?, hRead]
    rfl

end HintText

/-! ## Conversion -/

namespace Conversion

variable {ns : Namespace} {places : List Place}

theorem ofValue_text {text : String} {node : Node Value} (h : HintText.parse text = .ok node) :
    ofValue ns places (.str text) = ofNode ns places node := by
  rw [HintText.parse] at h
  rw [ofValue, ofText, Value.text, h]

/-- A literal that holds a text is converted as the text is. -/
theorem ofNode_literal_ofCodePoints (points : List Text.CodePoint) :
    ofNode ns places (.literal (Value.ofCodePoints points))
      = ofValue ns places (Value.ofCodePoints points) := by
  unfold Value.ofCodePoints
  split
  next => rw [ofNode, ofValue, Value.text]
  next => rw [ofNode, ofValue, Value.text]

theorem ofValue_quoted (points : List Text.CodePoint) :
    ofValue ns places (Value.ofCodePoints points).quoted
      = ofValue ns places (Value.ofCodePoints points) := by
  rw [Value.quoted, ofValue_text (parse_text_ofCodePoints points), ofNode_literal_ofCodePoints]

/-- However often a text is quoted, it is converted to the same type or fails alike. -/
theorem ofValue_iterate_quoted (points : List Text.CodePoint) (levels : Nat) :
    ofValue ns places (Value.quoted^[levels] (Value.ofCodePoints points))
      = ofValue ns places (Value.ofCodePoints points) := by
  induction levels generalizing points with
  | zero => rfl
  | succ levels ih =>
    have hQuoted : (Value.ofCodePoints points).quoted
        = Value.ofCodePoints ((Value.ofCodePoints points).text.toList.map .char) :=
      (Value.ofCodePoints_chars _).symm
    rw [Function.iterate_succ_apply, hQuoted, ih, ← hQuoted, ofValue_quoted]

end Conversion

open Conversion in
/-- The notation of a text, whatever its code points, is read as the literal of that text. So a
quoted annotation is converted to the same type as the annotation, or fails with the same error, on
every level of quotation; and in a literal type the value of a member in that notation is the text,
whatever literals stand beside it. -/
theorem quotation_transparent (points : List Text.CodePoint) :
    HintText.parse (Value.ofCodePoints points).text = .ok (.literal (Value.ofCodePoints points)) ∧
    (∀ (ns : Namespace) (places : List Place) (levels : Nat),
      ofValue ns places (Value.quoted^[levels] (Value.ofCodePoints points))
        = ofValue ns places (Value.ofCodePoints points)) ∧
    ∀ (ns : Namespace) (places : List Place) (origin : String) (before after : List (String × Value)),
      Node.IsDotted origin → (ns.find origin).map Found.object = some (.special "Literal") →
      (∀ member ∈ before ++ after, IsLiteralText member.1 member.2) →
      ofValue ns places (.str (origin ++ "[" ++ ", ".intercalate
          (before.map Prod.fst ++ (Value.ofCodePoints points).text :: after.map Prod.fst) ++ "]"))
        = .ok (literalType
            (before.map Prod.snd ++ Value.ofCodePoints points :: after.map Prod.snd)) := by
  refine ⟨parse_text_ofCodePoints points, fun ns places => ofValue_iterate_quoted points, ?_⟩
  intro ns places origin before after hOrigin hFind hMembers
  rw [List.forall_mem_append] at hMembers
  let v := Value.ofCodePoints points
  have hAll : ∀ member ∈ before ++ (v.text, v) :: after, IsLiteralText member.1 member.2 :=
    List.forall_mem_append.2
      ⟨hMembers.1, List.forall_mem_cons.2 ⟨parse_text_ofCodePoints points, hMembers.2⟩⟩
  have hParsed := parse_literals hOrigin hAll
  rw [List.map_append, List.map_cons, List.map_append, List.map_cons] at hParsed
  rw [ofValue_text hParsed, ofNode_literal hFind, ofObject]

namespace QuotedHint.Sample

def ns : Namespace := World.library.namespaceOf "typing"

/-- A text with both quotes, a backslash, a line feed and half of a surrogate pair. -/
def points : List Text.CodePoint :=
  [.char '\'', .char '"', .char '\\', .char '\n', .surrogate 5]

end QuotedHint.Sample

open QuotedHint.Sample in
theorem quotation_transparent_of_surrogate :
    (Value.ofCodePoints points).text = "'\\'\"\\\\\\n\\ud805'" ∧
      IsLiteralText "7" (.int 7) ∧
      Conversion.ofValue ns ns.places (.str "Literal[7, '\\'\"\\\\\\n\\ud805']")
        = .ok (Conversion.literalType [.int 7, Value.ofCodePoints points]) := by
  have hText : (Value.ofCodePoints points).text = "'\\'\"\\\\\\n\\ud805'" := by decide +kernel
  have hSeven : IsLiteralText "7" (.int 7) := by
    have hDigits : (Nat.toDigits 10 7).length ≤ HintText.digitLimit := by decide
    have hHint : (Node.literal (Value.int 7)).IsHint Value.IsHintLiteral false := hDigits
    have hWritten : (Node.literal (Value.int 7)).written = "7" := by decide +kernel
    exact hWritten ▸ HintText.parse_written hHint
  refine ⟨hText, hSeven, ?_⟩
  have hAll := (quotation_transparent points).2.2 ns ns.places "Literal" [("7", .int 7)] []
    (by decide) rfl (List.forall_mem_singleton.2 hSeven)
  rw [hText] at hAll
  exact hAll

end Interpose

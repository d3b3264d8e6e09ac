import Interpose.Proofs.Conversion.Derivations
import Interpose.Proofs.HintText.Foreign
import Interpose.Proofs.HintText.Joining
import Interpose.Proofs.QuotedHint

/-! # The members of literal types

The typing module takes any of the values that the generated language has a name or a notation for
as members of a literal type. The grammar of annotations has literals for texts and numbers only:
`None`, the two booleans and the members of enumerations are names to it, which are refused as
members, and byte strings have no place in it at all.
-/
namespace Interpose

set_option autoImplicit false

open HintText

/-- What the reader of annotations takes a member of a literal type for. -/
inductive MemberForm where
  | literal
  | name
  | foreign
  deriving DecidableEq, Repr

/-- A member of a literal type, and how it is spelled among the members. -/
structure LiteralMember where
  text : String
  value : Value

namespace LiteralMember

/-- Whether a member is spelled as the generated language does it: in the notation of its value, or,
if it is a member of an enumeration, as a dotted name that leads to it. -/
inductive IsSpelled (ns : Namespace) : LiteralMember → Prop where
  | text (points : List Text.CodePoint) :
      IsSpelled ns ⟨(Value.ofCodePoints points).text, Value.ofCodePoints points⟩
  | whole {n : Int} (hDigits : (Nat.toDigits 10 n.natAbs).length ≤ digitLimit) :
      IsSpelled ns ⟨(Value.int n).text, .int n⟩
  | none : IsSpelled ns ⟨Value.none.text, .none⟩
  | bool (b : Bool) : IsSpelled ns ⟨(Value.bool b).text, .bool b⟩
  | bytes (content : List UInt8) : IsSpelled ns ⟨(Value.bytes content).text, .bytes content⟩
  | member {dotted : String} {owner : ClassRef} {base : EnumBase} {name : String} {value : Value}
      (hName : IsDottedName dotted)
      (hFind : (ns.find dotted).map Found.object = some (.value (.member owner base name value))) :
      IsSpelled ns ⟨dotted, .member owner base name value⟩

def form (member : LiteralMember) : MemberForm :=
  match member.value with
  | .str _ | .brokenStr _ | .int _ => .literal
  | .bytes _ => .foreign
  | _ => if Text.IsAscii member.text.toList then .name else .foreign

/-- The tree that a member is read as, unless it is foreign. -/
def node (member : LiteralMember) : Node Value :=
  match member.form with
  | .literal => .literal member.value
  | _ => .name member.text

variable {ns : Namespace} {member : LiteralMember} {members : List LiteralMember}

/-! ## One member -/

theorem IsSpelled.isSingle (h : member.IsSpelled ns) : (Object.value member.value).IsSingle := by
  cases h with
  | text points =>
    unfold Value.ofCodePoints
    split <;> exact ⟨rfl, rfl⟩
  | _ => exact ⟨rfl, rfl⟩

theorem areHashable_values (h : ∀ member ∈ members, member.IsSpelled ns) :
    Value.areHashable (members.map value) = true := by
  induction members with
  | nil => rfl
  | cons member members ih =>
    obtain ⟨hFirst, hRest⟩ := List.forall_mem_cons.1 h
    rw [List.map_cons, Value.areHashable, ih hRest, Bool.and_true]
    cases hFirst with
    | text points =>
      unfold Value.ofCodePoints
      split <;> rfl
    | _ => rfl

theorem IsSpelled.isHint (h : member.IsSpelled ns) (hForm : member.form ≠ .foreign) :
    member.node.IsHint Value.IsHintLiteral true ∧
      Node.chars .whole member.node = member.text.toList := by
  cases h with
  | text points =>
    unfold Value.ofCodePoints
    split <;> exact ⟨trivial, rfl⟩
  | whole hDigits => exact ⟨hDigits, rfl⟩
  | none => exact ⟨(by decide : Node.IsDotted "None"), rfl⟩
  | bool b => cases b <;> exact ⟨(by decide : Node.IsDotted _), rfl⟩
  | bytes => exact absurd rfl hForm
  | @member dotted owner base name value hName =>
    have hAscii : Text.IsAscii dotted.toList := by
      refine Decidable.byContradiction fun hOther => hForm ?_
      exact if_neg hOther
    have hNamed : form ⟨dotted, .member owner base name value⟩ = .name := if_pos hAscii
    rw [node, hNamed]
    exact ⟨hName.isDotted hAscii, rfl⟩

theorem IsSpelled.isForeign (h : member.IsSpelled ns) (hForm : member.form = .foreign) :
    IsForeign member.text.toList := by
  cases h with
  | text points =>
    unfold Value.ofCodePoints at hForm
    split at hForm <;> cases hForm
  | whole hDigits => cases hForm
  | none => exact absurd hForm (by decide)
  | bool b => cases b <;> exact absurd hForm (by decide)
  | bytes content => exact isForeign_quoteBytes content
  | member hName => exact hName.isForeign fun hAscii => by simp [form, hAscii] at hForm

/-- In front of anything, a member and the comma behind it are cut into tokens. -/
theorem IsSpelled.exists_isCut (h : member.IsSpelled ns) (hForm : member.form ≠ .foreign) :
    ∃ tokens, IsCut (member.text.toList ++ [',', ' ']) tokens := by
  obtain ⟨hHint, hChars⟩ := h.isHint hForm
  obtain ⟨spelled, hSpelled⟩ := exists_spells member.node hHint
  have hLexes := hSpelled.lexes .whole
  rw [hChars] at hLexes
  have hComma : IsCut [',', ' '] [.comma] := isSeparator_comma.lexes
  exact ⟨_, hLexes.isCut hComma isSeparator_comma.ends⟩

/-! ## All members -/

/-- The text of a literal type, given the name that the form of these types has. -/
def literalText (origin : String) (members : List LiteralMember) : String :=
  origin ++ "[" ++ ", ".intercalate (members.map text) ++ "]"

theorem written_subscript {origin : String}
    (h : ∀ member ∈ members, Node.chars .whole member.node = member.text.toList) :
    (Node.subscript origin (members.map node)).written = literalText origin members := by
  have hTexts : (members.map node).map Node.written = members.map text := by
    rw [List.map_map]
    refine List.map_congr_left fun member hMem => ?_
    rw [Function.comp_apply, Node.written, h member hMem, String.ofList_toList]
  have hRow := Node.toList_intercalate_written ", " (members.map node)
  rw [hTexts] at hRow
  apply String.toList_inj.1
  rw [Node.written, String.toList_ofList, Node.chars, literalText, String.toList_append,
    String.toList_append, String.toList_append, hRow]
  simp

theorem parse_literalText {origin : String} (hOrigin : Node.IsDotted origin)
    (h : ∀ member ∈ members, member.IsSpelled ns)
    (hForms : ∀ member ∈ members, member.form ≠ .foreign) :
    parse (literalText origin members) = .ok (.subscript origin (members.map node)) := by
  have hAll := fun member hMem => (h member hMem).isHint (hForms member hMem)
  rw [← written_subscript fun member hMem => (hAll member hMem).2]
  refine parse_written ⟨hOrigin, Node.areHints_iff.2 ?_⟩
  exact List.forall_mem_map.2 fun member hMem => (hAll member hMem).1

/-- What stands in front of the first foreign member is cut into tokens. -/
theorem exists_front {origin : String} (hOrigin : Node.IsDotted origin)
    (h : ∀ member ∈ members, member.IsSpelled ns)
    (hForms : ∀ member ∈ members, member.form ≠ .foreign) (last : LiteralMember)
    (after : List LiteralMember) :
    ∃ front tokens rest, IsCut front tokens ∧
      (literalText origin (members ++ last :: after)).toList
        = front ++ (last.text.toList ++ rest) := by
  have hBracket : IsCut ['['] [.openBracket] := tokens?_mark (by decide)
  have hName : IsCut (origin.toList ++ ['[']) (nameTokens origin ++ [.openBracket]) :=
    (lexes_dotted hOrigin).isCut hBracket fun rest => (by decide : '[' ∈ tokenEnds)
  obtain ⟨tokens, hRow⟩ := isCut_flatMap fun member hMem =>
    (h member hMem).exists_isCut (hForms member hMem)
  refine ⟨_, _, (after.map text).flatMap (fun text => [',', ' '] ++ text.toList) ++ [']'],
    hName.append hRow, ?_⟩
  rw [literalText, String.toList_append, String.toList_append, String.toList_append,
    List.map_append, List.map_cons, Node.toList_intercalate_append, Node.toList_intercalate_cons,
    List.flatMap_map]
  simp

theorem spelled?_literalText {origin : String} (hOrigin : Node.IsDotted origin)
    (h : ∀ member ∈ members, member.IsSpelled ns)
    (hForeign : ∃ member ∈ members, member.form = .foreign) :
    spelled? (literalText origin members).toList = none := by
  obtain ⟨first, hFind⟩ : ∃ first, members.find? (·.form = .foreign) = some first :=
    Option.isSome_iff_exists.1 (List.find?_isSome.2 (by simpa using hForeign))
  obtain ⟨hFirst, before, after, rfl, hBefore⟩ := List.find?_eq_some_iff_append.1 hFind
  obtain ⟨hSpelled, hLast⟩ := List.forall_mem_append.1 h
  obtain ⟨front, tokens, rest, hFront, hText⟩ := exists_front hOrigin hSpelled
    (fun member hMem => by simpa using hBefore member hMem) first after
  rw [hText]
  refine ((hLast first List.mem_cons_self).isForeign ?_).spelled? hFront rest
  simpa using hFirst

/-! ## Conversion -/

open Conversion

theorem node_literal (h : ∀ member ∈ members, member.form = .literal) :
    members.map node = (members.map value).map .literal := by
  rw [List.map_map]
  refine List.map_congr_left fun member hMem => ?_
  rw [node, h member hMem]
  rfl

theorem literalValues?_node (h : ¬ ∀ member ∈ members, member.form = .literal) :
    literalValues? (members.map node) = none := by
  refine Option.eq_none_iff_forall_ne_some.2 fun values hValues => h fun member hMem => ?_
  have hNode : member.node ∈ values.map Node.literal :=
    eq_map_of_literalValues? hValues ▸ List.mem_map_of_mem hMem
  obtain ⟨v, -, hLiteral⟩ := List.mem_map.1 hNode
  rw [node] at hLiteral
  split at hLiteral
  next hForm => exact hForm
  next => cases hLiteral

variable {origin : String}

theorem toType_foreign (hOrigin : Node.IsDotted origin)
    (h : ∀ member ∈ members, member.IsSpelled ns)
    (hForeign : ∃ member ∈ members, member.form = .foreign) :
    (Object.value (.str (literalText origin members))).toType ns
      = .error (.malformedHint (Text.quote (literalText origin members))) := by
  have hParsed : HintText.parse (literalText origin members)
      = .error (.malformedHint (Text.quote (literalText origin members))) := by
    rw [HintText.parse, parseShown, spelled?_literalText hOrigin h hForeign]
  rw [HintText.parse] at hParsed
  rw [Object.toType, ofObject, ofValue, ofText, Value.text, hParsed]

theorem toType_named (hOrigin : Node.IsDotted origin)
    (hFind : (ns.find origin).map Found.object = some (.special "Literal"))
    (h : ∀ member ∈ members, member.IsSpelled ns)
    (hForms : ∀ member ∈ members, member.form ≠ .foreign)
    (hNamed : ¬ ∀ member ∈ members, member.form = .literal) :
    (Object.value (.str (literalText origin members))).toType ns
      = .error (.unsupportedLiteral (Node.subscript origin (members.map node)).text) := by
  rw [toType_text (parse_literalText hOrigin h hForms), ofNode.eq_def]
  simp only [hFind, literalValues?_node hNamed]
  rfl

theorem toType_literals (hOrigin : Node.IsDotted origin)
    (hFind : (ns.find origin).map Found.object = some (.special "Literal"))
    (h : ∀ member ∈ members, member.IsSpelled ns)
    (hForms : ∀ member ∈ members, member.form = .literal) :
    (Object.value (.str (literalText origin members))).toType ns
      = (Object.literal (members.map value)).toType ns := by
  have hParsed := parse_literalText hOrigin h fun member hMem => by simp [hForms member hMem]
  rw [toType_text hParsed, node_literal hForms, ofNode_literal hFind, Object.toType]

end LiteralMember

open LiteralMember Conversion in
/-- A literal type is converted to the type that the object is converted to exactly if its members
are texts and whole numbers. Of all other members, those that the grammar takes for names are
refused as members, and those in which it finds nothing of its own as annotations. -/
theorem literal_members_read (world : World) {ns : Namespace} {origin : String}
    (hOrigin : Node.IsDotted origin)
    (hFind : (ns.find origin).map Found.object = some (.special "Literal"))
    {members : List LiteralMember} (hSpelled : ∀ member ∈ members, member.IsSpelled ns)
    (hDistinct : (members.map value).Pairwise fun v w => (v.equal w && v.sameType w) = false) :
    (∃ answers, (Typing.subscript world (.special "Literal")
        ((members.map value).map .value)).Builds (.literal (members.map value)) answers) ∧
      (Object.literal (members.map value)).toType ns = .ok (literalType (members.map value)) ∧
      (Object.value (.str (literalText origin members))).toType ns =
        if ∀ member ∈ members, member.form = .literal then .ok (literalType (members.map value))
        else if ∃ member ∈ members, member.form = .foreign then
          .error (.malformedHint (Text.quote (literalText origin members)))
        else .error (.unsupportedLiteral (Node.subscript origin (members.map node)).text) := by
  have hLive : (Object.literal (members.map value)).toType ns
      = .ok (literalType (members.map value)) := by
    rw [Object.toType, ofObject]
  refine ⟨?_, hLive, ?_⟩
  · have hSingle : ∀ v ∈ members.map value, (Object.value v).IsSingle :=
      List.forall_mem_map.2 fun member hMem => (hSpelled member hMem).isSingle
    rw [Typing.subscript_literal hSingle (areHashable_values hSpelled) hDistinct]
    exact Evaluation.exists_builds_answer _ _
  · split
    next hForms => rw [toType_literals hOrigin hFind hSpelled hForms, hLive]
    next hNamed =>
      split
      next hForeign => exact toType_foreign hOrigin hSpelled hForeign
      next hForms =>
        rw [not_exists] at hForms
        refine toType_named hOrigin hFind hSpelled (fun member hMem hForm => ?_) hNamed
        exact hForms member ⟨hMem, hForm⟩

namespace LiteralMembers.Sample

def color : ClassRef := ⟨"m", "Color", 1, true⟩

def red : Value := .member color .plain "RED" (.int 1)

def world : World where
  modules := [⟨"m", false, [("Literal", .special "Literal"), ("Color", .cls color)]⟩]
  classes := [
    { ref := color, name := "Color", bases := [.enumClass], resolution := [color, .enumClass]
      attributes := [("RED", .plain (.value red))] }]
  memory := []

def ns : Namespace := world.namespaceOf "m"

def members : List LiteralMember :=
  [⟨"'x'", .str "x"⟩, ⟨"-3", .int (-3)⟩, ⟨"None", .none⟩, ⟨"Color.RED", red⟩]

theorem isSpelled_members : ∀ member ∈ members, member.IsSpelled ns := by
  have hText : LiteralMember.IsSpelled ns ⟨"'x'", .str "x"⟩ := .text [.char 'x']
  have hDigits : (Nat.toDigits 10 (-3 : Int).natAbs).length ≤ digitLimit := by decide
  have hWhole : LiteralMember.IsSpelled ns ⟨"-3", .int (-3)⟩ := .whole hDigits
  have hName : ∀ part ∈ Text.dottedParts "Color.RED", Text.isIdentifier part = true := by decide
  have hRed : LiteralMember.IsSpelled ns ⟨"Color.RED", red⟩ := .member hName rfl
  rintro member (_ | ⟨_, _ | ⟨_, _ | ⟨_, _ | ⟨_, ⟨⟩⟩⟩⟩⟩)
  · exact hText
  · exact hWhole
  · exact .none
  · exact hRed

end LiteralMembers.Sample

open LiteralMembers.Sample LiteralMember in
theorem literal_members_read_of_enumeration :
    literalText "Literal" members = "Literal['x', -3, None, Color.RED]" ∧
      (Object.value (.str (literalText "Literal" members))).toType ns
        = .error (.unsupportedLiteral ("_Subscript(origin=_Name(value='Literal'), arguments=["
            ++ "_Literal(value='x'), _Literal(value=-3), _Name(value='None'), "
            ++ "_Name(value='Color.RED')])")) ∧
      (Object.value (.str (literalText "Literal" (members.take 2)))).toType ns
        = .ok (Conversion.literalType [.str "x", .int (-3)]) := by
  have hFew : ∀ member ∈ members.take 2, member.IsSpelled ns :=
    fun member hMem => isSpelled_members member (List.mem_of_mem_take hMem)
  have hAll := (literal_members_read world (by decide : HintText.Node.IsDotted "Literal") rfl
    isSpelled_members (by decide +kernel)).2.2
  have hTwo := (literal_members_read world (by decide : HintText.Node.IsDotted "Literal") rfl
    hFew (by decide +kernel)).2.2
  refine ⟨by decide +kernel, ?_, ?_⟩
  · rw [hAll, if_neg (by decide +kernel), if_neg (by decide +kernel)]
    rfl
  · rw [hTwo, if_pos (by decide +kernel)]
    rfl

open LiteralMembers.Sample LiteralMember in
/-- `None` is a member of a literal type as an object, and neither it nor a byte string is one in a
text. -/
theorem literal_members_refused :
    (∃ answers, (Typing.subscript world (.special "Literal") [.none]).Builds (.literal [.none])
        answers) ∧
      (Object.literal [.none]).toType ns = .ok (Conversion.literalType [.none]) ∧
      (Object.value (.str "Literal[None]")).toType ns
        = .error (.unsupportedLiteral ("_Subscript(origin=_Name(value='Literal'), "
            ++ "arguments=[_Name(value='None')])")) ∧
      (Object.literal [.bytes [120]]).toType ns = .ok (Conversion.literalType [.bytes [120]]) ∧
      (Object.value (.str "Literal[b'x']")).toType ns
        = .error (.malformedHint "\"Literal[b'x']\"") := by
  have hOrigin : HintText.Node.IsDotted "Literal" := by decide
  have hNone : ∀ member ∈ [LiteralMember.mk "None" .none], member.IsSpelled ns :=
    List.forall_mem_singleton.2 .none
  have hBytes : ∀ member ∈ [LiteralMember.mk "b'x'" (.bytes [120])], member.IsSpelled ns :=
    List.forall_mem_singleton.2 (.bytes [120])
  have hLive (v : Value) : (Object.literal [v]).toType ns = .ok (Conversion.literalType [v]) := by
    rw [Object.toType, Conversion.ofObject]
  refine ⟨⟨_, rfl⟩, hLive _, ?_, hLive _, ?_⟩
  · have hNamed := toType_named hOrigin rfl hNone (by decide) (by decide)
    exact hNamed
  · have hForeign := toType_foreign hOrigin hBytes (by decide)
    exact hForeign

end Interpose

import Interpose.Proofs.Rendering.Names

/-! # The pieces of a generated text

What is written for a type, a default value or a method is told in pieces: the qualified names, each
in its module, and whatever can stand without an import between them. The pieces depend on the type
or the method alone. Wherever rendering succeeds, it yields the pieces put together, with the
modules of the qualified names among them.
-/
namespace Interpose

set_option autoImplicit false

inductive Piece where
  | bare (text : String)
  | qualified (module name : String)
  deriving DecidableEq, Repr

namespace Piece

def text : Piece → String
  | bare text => text
  | qualified module name => module ++ "." ++ name

def module? : Piece → Option String
  | bare _ => none
  | qualified module _ => some module

def bracketed (pieces : List Piece) : List Piece :=
  .bare "[" :: pieces ++ [.bare "]"]

/-- What is written piece by piece. -/
def write (pieces : List Piece) : Rendered :=
  ⟨String.join (pieces.map text), pieces.filterMap module?⟩

end Piece

/-! ## Names and types -/

def NamedType.piece (t : NamedType) : Piece :=
  match t.module with
  | some module => .qualified module t.name
  | .none => .bare t.name

namespace HintSite

def piece (site : HintSite) (t : NamedType) : Piece :=
  if t.name = "static" then .bare "Self"
  else
    match site.resolve t with
    | .ok resolved => if resolved.isBuiltin then .bare resolved.name else resolved.piece
    | .error _ => .bare t.name

def markPieces (site : HintSite) (top isNullable : Bool) : List Piece :=
  if isNullable && !site.hidesNullable top then [.bare " | None"] else []

def namedPieces (site : HintSite) (top : Bool) (t : NamedType) : List Piece :=
  site.piece t :: if (site.piece t).text = "Any" then [] else site.markPieces top t.isNullable

end HintSite

namespace TypeExpr

mutual

def pieces (site : HintSite) (top : Bool) : TypeExpr → List Piece
  | .named t => site.namedPieces top t
  | .union members => [Piece.bare " | "].intercalate (allPieces site top members)
  | .intersection members => [Piece.bare " & "].intercalate (allPieces site top members)
  | .generic origin arguments isNullable =>
    site.namedPieces false origin ++
        Piece.bracketed ([Piece.bare ", "].intercalate (allPieces site false arguments)) ++
      site.markPieces top isNullable
  | .list items => Piece.bracketed ([Piece.bare ", "].intercalate (allPieces site false items))
  | .literal v => [.bare v.text]

def allPieces (site : HintSite) (top : Bool) : List TypeExpr → List (List Piece)
  | [] => []
  | t :: ts => pieces site top t :: allPieces site top ts

end

end TypeExpr

/-! ## Parameters and methods -/

def DefaultExpr.pieces : DefaultExpr → List Piece
  | .literal v => [.bare v.text]
  | .declared owner method parameter =>
    [.bare "original_default(", owner.piece,
      .bare (", " ++ Text.quote method ++ ", " ++ Text.quote parameter ++ ")")]

namespace Method

def hintPieces (m : Method) (p : Parameter) : List Piece :=
  match p.type with
  | some t => .bare ": " :: t.pieces ⟨m, some p⟩ true
  | none => []

def defaultPieces (m : Method) (p : Parameter) : List Piece :=
  match p.default with
  | some _ => .bare (if p.type.isSome then " = " else "=") :: (DefaultExpr.of m p).pieces
  | none => []

def itemPieces (m : Method) : DeclItem Parameter → List Piece
  | .receiver => [.bare "self"]
  | .slash => [.bare "/"]
  | .star => [.bare "*"]
  | .parameter p =>
    .bare (WrittenParameter.text ⟨p.name, p.kind, none, none⟩) ::
      m.hintPieces p ++ m.defaultPieces p

def resultPieces (m : Method) : List Piece :=
  match m.returns with
  | some t =>
    let result := t.pieces ⟨m, none⟩ true
    if (Piece.write result).text = "" then [] else .bare " -> " :: result
  | none => []

def declarationPieces (m : Method) : List Piece :=
  [Piece.bare ", "].intercalate ((declarationOf m.parameters).map m.itemPieces)

/-- A parameter as it is written if its hint is. -/
def writtenParameter (m : Method) (p : Parameter) : WrittenParameter :=
  ⟨p.name, p.kind, p.type.map fun t => Piece.write (t.pieces ⟨m, some p⟩ true),
    p.default.map fun _ => DefaultExpr.of m p⟩

def writtenItem (m : Method) : DeclItem Parameter → DeclItem WrittenParameter
  | .receiver => .receiver
  | .slash => .slash
  | .star => .star
  | .parameter p => .parameter (m.writtenParameter p)

/-- The forwarding method for a method if its hints can be written. -/
def written (m : Method) : ForwardingMethod :=
  ⟨m.name, m.isAsync, (declarationOf m.parameters).map m.writtenItem,
    m.returns.map fun t => Piece.write (t.pieces ⟨m, none⟩ true), callArguments m.parameters⟩

def pieces (m : Method) : List Piece :=
  .bare ((if m.isAsync then "    async def " else "    def ") ++ m.name ++ "(") ::
    m.declarationPieces ++ .bare ")" :: m.resultPieces ++
    [.bare (":\n" ++ String.join (m.written.lines.tail.map (· ++ "\n")))]

end Method

namespace Target

def written (target : Target) (className : String) : ClassSource :=
  ⟨className, target.module, target.name, target.forwarded.map Method.written⟩

/-- What a generated module has after its imports of other modules. -/
def pieces (target : Target) (className : String) : List Piece :=
  let name := Piece.qualified target.module target.name
  [.bare (ClassSource.supportImport ++ "\n\nclass " ++ className ++ "(PersistentCollectionMixin, "),
    name, .bare "):\n    \"\"\"Persistent collection decorating ", name,
    .bare (".\"\"\"\n\n" ++ ClassSource.initializer)] ++
  target.forwarded.flatMap Method.pieces

end Target

/-! ## What is written -/

theorem Hint.separated_cons_cons (separator : String) (first second : Rendered)
    (rest : List Rendered) :
    separated separator (first :: second :: rest)
      = ⟨first.text ++ separator ++ (separated separator (second :: rest)).text,
        first.modules ++ (separated separator (second :: rest)).modules⟩ := by
  rw [separated, List.map_cons, List.map_cons, String.intercalate_cons_cons, List.flatMap_cons]
  rfl

namespace Piece

@[simp] theorem write_nil : write [] = ⟨"", []⟩ := rfl

@[simp] theorem write_append (ps qs : List Piece) :
    write (ps ++ qs)
      = ⟨(write ps).text ++ (write qs).text, (write ps).modules ++ (write qs).modules⟩ := by
  rw [write, List.map_append, String.join_append, List.filterMap_append]
  rfl

@[simp] theorem write_bare_cons (text : String) (ps : List Piece) :
    write (bare text :: ps) = ⟨text ++ (write ps).text, (write ps).modules⟩ := by
  rw [write, List.map_cons, String.join_cons]
  rfl

theorem write_bare (text : String) : write [bare text] = ⟨text, []⟩ := by
  rw [write_bare_cons, write_nil, String.append_empty]

@[simp] theorem write_bracketed (ps : List Piece) :
    write (bracketed ps) = ⟨"[" ++ (write ps).text ++ "]", (write ps).modules⟩ := by
  rw [bracketed, List.cons_append, write_bare_cons, write_append, write_bare, List.append_nil,
    String.append_assoc]

theorem write_intercalate (separator : String) (parts : List (List Piece)) :
    write ([bare separator].intercalate parts) = Hint.separated separator (parts.map write) := by
  induction parts with
  | nil => rfl
  | cons part parts ih =>
    cases parts with
    | nil =>
      rw [List.intercalate_singleton, List.map_singleton, Hint.separated, List.map_singleton,
        String.intercalate_singleton, List.flatMap_singleton]
    | cons next parts =>
      rw [List.intercalate_cons_cons, write_append, write_append, ih, write_bare, List.append_nil]
      exact (Hint.separated_cons_cons separator _ _ _).symm

end Piece

namespace NamedType

@[simp] theorem write_piece_cons (t : NamedType) (ps : List Piece) :
    Piece.write (t.piece :: ps)
      = ⟨t.qualifiedName ++ (Piece.write ps).text,
        t.module.toList ++ (Piece.write ps).modules⟩ := by
  cases hModule : t.module <;>
    simp [piece, qualifiedName, hModule, Piece.write, Piece.text, Piece.module?,
      List.filterMap_cons]

theorem write_piece (t : NamedType) : Piece.write [t.piece] = t.qualified := by
  rw [write_piece_cons]
  simp [Piece.write, qualified]

end NamedType

namespace Hint

open Sequence

variable {world : World} {site : HintSite}

/-- A name is that of the class of the receiver, builtin, or that of something which is found. -/
theorem nameOf_cases {t : NamedType} {r : Rendered} (h : nameOf world site t = .ok r) :
    ∃ resolved, site.resolve t = .ok resolved ∧
      (t.name = "static" ∧ r = ⟨"Self", []⟩ ∨
        t.name ≠ "static" ∧ resolved.isBuiltin = true ∧ r = ⟨resolved.name, []⟩ ∨
        t.name ≠ "static" ∧ resolved.isBuiltin = false ∧
          world.typeExists resolved.module resolved.name = .ok true ∧ r = resolved.qualified) := by
  rw [nameOf_world] at h
  obtain ⟨resolved, hResolved, h⟩ := bind_eq_ok_iff.1 h
  refine ⟨resolved, hResolved, ?_⟩
  split at h
  next hStatic =>
    cases h
    exact .inl ⟨hStatic, rfl⟩
  next hStatic =>
    split at h
    next hBuiltin =>
      cases h
      exact .inr (.inl ⟨hStatic, hBuiltin, rfl⟩)
    next hBuiltin =>
      obtain ⟨found, hExists, h⟩ := bind_eq_ok_iff.1 h
      cases found with
      | false => cases h
      | true =>
        cases h
        exact .inr (.inr ⟨hStatic, Bool.eq_false_iff.2 hBuiltin, hExists, rfl⟩)

theorem mark_eq_write (top isNullable : Bool) (ps : List Piece) :
    Piece.write (ps ++ site.markPieces top isNullable)
      = ⟨site.mark top isNullable (Piece.write ps).text, (Piece.write ps).modules⟩ := by
  rw [HintSite.markPieces, HintSite.mark, Piece.write_append]
  split
  next => simp
  next => simp

end Hint

/-! ## Methods -/

open Sequence

variable {world : World}

theorem DefaultExpr.write_pieces (d : DefaultExpr) : Piece.write d.pieces = d.render := by
  cases d with
  | literal v => exact Piece.write_bare _
  | declared owner method parameter =>
    unfold pieces render
    simp [String.append_assoc]

namespace Method

theorem write_itemPieces (m : Method) (item : DeclItem Parameter) :
    Piece.write (m.itemPieces item)
      = ⟨(m.writtenItem item).text, (m.writtenItem item).modules⟩ := by
  cases item with
  | receiver | slash | star => exact Piece.write_bare _
  | parameter p =>
    simp only [itemPieces, hintPieces, defaultPieces, writtenItem, writtenParameter,
      DeclItem.text, DeclItem.modules, WrittenParameter.text, WrittenParameter.modules]
    cases p.type <;> cases p.default <;>
      simp [DefaultExpr.write_pieces, String.append_assoc]

theorem write_declarationPieces (m : Method) :
    Piece.write m.declarationPieces = declarationText m.written.declaration := by
  rw [declarationPieces, Piece.write_intercalate, List.map_map]
  simp only [Function.comp_def, write_itemPieces]
  simp [Hint.separated, declarationText, written, List.map_map, List.flatMap_map, Function.comp_def]

theorem modules_of_empty_text {ps : List Piece} (h : (Piece.write ps).text = "") :
    (Piece.write ps).modules = [] := by
  induction ps with
  | nil => rfl
  | cons p ps ih =>
    rw [Piece.write, List.map_cons, String.join_cons, String.append_eq_empty_iff] at h
    cases p with
    | bare text => exact ih h.2
    | qualified module name => simp [Piece.text] at h

theorem text_resultPieces (m : Method) :
    (Piece.write m.resultPieces).text = match m.written.returnHint with
      | some hint => if hint.text = "" then "" else " -> " ++ hint.text
      | none => "" := by
  cases hReturns : m.returns with
  | none => simp [resultPieces, written, hReturns]
  | some t =>
    simp only [resultPieces, written, hReturns, Option.map_some]
    split
    next => rfl
    next => simp

theorem modules_resultPieces (m : Method) :
    (Piece.write m.resultPieces).modules = match m.written.returnHint with
      | some hint => hint.modules
      | none => [] := by
  cases hReturns : m.returns with
  | none => simp [resultPieces, written, hReturns]
  | some t =>
    simp only [resultPieces, written, hReturns, Option.map_some]
    split
    next hEmpty => exact (modules_of_empty_text hEmpty).symm
    next => simp

/-- The lines of a forwarding method are its pieces. -/
theorem text_pieces (m : Method) :
    (Piece.write m.pieces).text = String.join (m.written.lines.map (· ++ "\n")) := by
  have hFirst : String.join (m.written.lines.map (· ++ "\n"))
      = (if m.isAsync then "    async def " else "    def ") ++ m.name ++ "("
          ++ (declarationText m.written.declaration).text ++ ")"
          ++ (Piece.write m.resultPieces).text ++ ":" ++ "\n"
          ++ String.join (m.written.lines.tail.map (· ++ "\n")) := by
    rw [text_resultPieces]
    exact String.join_cons
  have hEnd : ":\n" = ":" ++ "\n" := rfl
  rw [hFirst]
  unfold pieces
  simp only [Piece.write_append, Piece.write_bare_cons, Piece.write_nil, write_declarationPieces,
    hEnd, String.append_assoc, String.append_empty]

theorem mem_modules_pieces (m : Method) (module : String) :
    module ∈ (Piece.write m.pieces).modules ↔ module ∈ m.written.modules := by
  unfold pieces
  simp only [Piece.write_append, Piece.write_bare_cons, Piece.write_nil, write_declarationPieces,
    modules_resultPieces, ForwardingMethod.modules, List.mem_append, List.append_nil]
  exact or_comm

end Method

theorem Method.text_flatMap_pieces (ms : List Method) :
    (Piece.write (ms.flatMap Method.pieces)).text
      = String.join ((ms.map Method.written).flatMap fun f => f.lines.map (· ++ "\n")) := by
  induction ms with
  | nil => rfl
  | cons m ms ih =>
    rw [List.flatMap_cons, Piece.write_append, text_pieces, ih, List.map_cons, List.flatMap_cons,
      String.join_append]

/-- The text of a generated module is an opening, its imports and the pieces of its target. -/
theorem Target.text_written (target : Target) (className : String) :
    (target.written className).text
      = ClassSource.opening
        ++ String.join ((target.written className).imports.map fun module =>
          "import " ++ module ++ "\n")
        ++ (Piece.write (target.pieces className)).text := by
  unfold Target.pieces ClassSource.text
  have hName (rest : List Piece) :
      (Piece.write (.qualified target.module target.name :: rest)).text
        = (target.written className).target ++ (Piece.write rest).text := by
    rw [Piece.write, List.map_cons, String.join_cons]
    rfl
  simp only [Piece.write_append, Piece.write_bare_cons, Piece.write_nil, hName,
    Method.text_flatMap_pieces, String.append_assoc, String.append_empty]
  rfl

end Interpose

import Interpose.Proofs.Importing
import Interpose.Proofs.Rendering.Factoring
import Mathlib.Data.String.Basic

/-! # Imports of generated modules

A generated module imports, each once and in order, the modules of the qualified names that it is
written with, and no others: that of the target, those of the names in the hints of forwarded
methods that are neither builtin nor the class of the receiver, and those of the classes whose
methods are asked for a default value.
-/
namespace Interpose

set_option autoImplicit false

open Sequence

open Stateful (outcome outcome_bind outcome_discard)

/-! ## Sorted lists -/

theorem mem_insertSorted {s t : String} {ts : List String} :
    s ∈ insertSorted t ts ↔ s = t ∨ s ∈ ts := by
  induction ts with
  | nil => exact List.mem_cons
  | cons u us ih =>
    rw [insertSorted]
    split
    next => exact List.mem_cons
    next =>
      split
      next hSame => rw [hSame, List.mem_cons, ← or_assoc, or_self]
      next => rw [List.mem_cons, List.mem_cons, ih, or_left_comm]

theorem pairwise_insertSorted (t : String) {ts : List String} (h : ts.Pairwise (· < ·)) :
    (insertSorted t ts).Pairwise (· < ·) := by
  induction h with
  | nil => exact List.pairwise_singleton _ _
  | @cons u us hFirst hRest ih =>
    rw [insertSorted]
    split
    next hLess =>
      refine .cons (List.forall_mem_cons.2 ⟨hLess, fun s hMem => ?_⟩) (.cons hFirst hRest)
      exact lt_trans hLess (hFirst s hMem)
    next hNotLess =>
      split
      next => exact .cons hFirst hRest
      next hOther =>
        refine .cons (fun s hMem => ?_) ih
        obtain rfl | hMem := mem_insertSorted.1 hMem
        · exact lt_of_le_of_ne (le_of_not_gt hNotLess) (Ne.symm hOther)
        · exact hFirst s hMem

theorem mem_sortedUnique {s : String} {ts : List String} : s ∈ sortedUnique ts ↔ s ∈ ts := by
  induction ts with
  | nil => exact Iff.rfl
  | cons t ts ih =>
    rw [sortedUnique, List.foldr_cons, mem_insertSorted, List.mem_cons, ← ih]
    rfl

theorem pairwise_sortedUnique (ts : List String) : (sortedUnique ts).Pairwise (· < ·) := by
  induction ts with
  | nil => exact .nil
  | cons t ts ih => exact pairwise_insertSorted t ih

/-! ## Qualified names -/

namespace Piece

theorem modules_write_cons (p : Piece) (ps : List Piece) :
    (write (p :: ps)).modules = p.module?.toList ++ (write ps).modules := by
  cases p <;> rfl

theorem modules_write_append (ps qs : List Piece) :
    (write (ps ++ qs)).modules = (write ps).modules ++ (write qs).modules := by
  rw [write_append]

theorem modules_write_flatMap {α : Type} (f : α → List Piece) (xs : List α) :
    (write (xs.flatMap f)).modules = xs.flatMap fun x => (write (f x)).modules := by
  induction xs with
  | nil => rfl
  | cons x xs ih => rw [List.flatMap_cons, modules_write_append, ih, List.flatMap_cons]

theorem mem_modules_write {module : String} {ps : List Piece} :
    module ∈ (write ps).modules ↔ ∃ name, qualified module name ∈ ps := by
  rw [write, List.mem_filterMap]
  constructor
  · rintro ⟨p, hMem, hModule⟩
    cases p with
    | bare text => cases hModule
    | qualified _ name =>
      cases hModule
      exact ⟨name, hMem⟩
  · rintro ⟨name, hMem⟩
    exact ⟨_, hMem, rfl⟩

end Piece

theorem NamedType.module?_piece (t : NamedType) : t.piece.module? = t.module := by
  unfold piece
  split
  next hModule => exact hModule.symm
  next hModule => exact hModule.symm

namespace HintSite

variable {site : HintSite}

theorem module?_piece {t : NamedType} {module : String} :
    (site.piece t).module? = some module ↔ t.name ≠ "static" ∧ ∃ resolved,
      site.resolve t = .ok resolved ∧ resolved.isBuiltin = false ∧
        resolved.module = some module := by
  unfold piece
  split
  next hStatic => simp [Piece.module?, hStatic]
  next hOther =>
    cases hResolve : site.resolve t with
    | error failure => simp [Piece.module?]
    | ok resolved =>
      cases hBuiltin : resolved.isBuiltin with
      | true => simp [Piece.module?, hBuiltin]
      | false => simp [hOther, hBuiltin, NamedType.module?_piece]

theorem modules_markPieces (top isNullable : Bool) :
    (Piece.write (site.markPieces top isNullable)).modules = [] := by
  unfold markPieces
  split <;> rfl

theorem modules_namedPieces (top : Bool) (t : NamedType) :
    (Piece.write (site.namedPieces top t)).modules
      = [t].filterMap fun name => (site.piece name).module? := by
  have hMark : (Piece.write (if (site.piece t).text = "Any" then []
      else site.markPieces top t.isNullable)).modules = [] := by
    split
    next => rfl
    next => exact modules_markPieces _ _
  rw [namedPieces, Piece.modules_write_cons, hMark, List.append_nil]
  cases hModule : (site.piece t).module? <;> simp [hModule]

end HintSite

namespace TypeExpr

variable {site : HintSite}

mutual

/-- The modules that a type is written with are those of the names in it. -/
theorem modules_pieces (top : Bool) (t : TypeExpr) :
    (Piece.write (t.pieces site top)).modules
      = t.names.filterMap fun name => (site.piece name).module? := by
  cases t with
  | named t => exact HintSite.modules_namedPieces top t
  | literal v => rfl
  | union members | intersection members =>
    rw [pieces, Piece.write_intercalate, names, ← modules_allPieces]
    rfl
  | list items =>
    rw [pieces, Piece.write_bracketed, Piece.write_intercalate, names, ← modules_allPieces]
    rfl
  | generic origin arguments isNullable =>
    have hNames : origin :: allNames arguments = [origin] ++ allNames arguments := rfl
    rw [pieces, Piece.modules_write_append, Piece.modules_write_append,
      HintSite.modules_namedPieces, HintSite.modules_markPieces, Piece.write_bracketed,
      Piece.write_intercalate, List.append_nil, names, hNames, List.filterMap_append,
      ← modules_allPieces]
    rfl

theorem modules_allPieces (top : Bool) (ts : List TypeExpr) :
    ((allPieces site top ts).map Piece.write).flatMap Rendered.modules
      = (allNames ts).filterMap fun name => (site.piece name).module? := by
  cases ts with
  | nil => rfl
  | cons t ts =>
    rw [allPieces, List.map_cons, List.flatMap_cons, modules_pieces, modules_allPieces, allNames,
      List.filterMap_append]

end

end TypeExpr

/-! ## Methods and targets -/

/-- The modules that the look-up of a default value needs. -/
def Method.defaultModules (m : Method) (p : Parameter) : List String :=
  match p.default with
  | some v => if v.isLiteral then [] else m.declaring.module.toList
  | none => []

/-- What a generated module has to import. -/
inductive Target.Uses (target : Target) (module : String) : Prop
  | header (isOwn : module = target.module)
  | hint {site : HintSite} {t : NamedType} (isWritten : (site, t) ∈ namesOf target.hints)
      {resolved : NamedType} (refers : site.resolve t = .ok resolved)
      (notStatic : t.name ≠ "static") (notBuiltin : resolved.isBuiltin = false)
      (isIn : resolved.module = some module)
  | default {m : Method} (isForwarded : m ∈ target.forwarded) {p : Parameter}
      (isParameter : p ∈ m.parameters) {v : Value} (hasDefault : p.default = some v)
      (notLiteral : v.isLiteral = false) (isIn : m.declaring.module = some module)

namespace Method

theorem modules_render_of {m : Method} {p : Parameter} {v : Value} (h : p.default = some v) :
    (DefaultExpr.of m p).render.modules = m.defaultModules p := by
  have hModules : m.defaultModules p
      = if v.isLiteral then [] else m.declaring.module.toList := by
    rw [defaultModules, h]
  rw [hModules, DefaultExpr.of, h, Option.getD_some]
  cases v.isLiteral <;> rfl

theorem modules_writtenParameter (m : Method) (p : Parameter) :
    (m.writtenParameter p).modules
      = (p.type.toList.flatMap fun t => (Piece.write (t.pieces ⟨m, some p⟩ true)).modules) ++
        m.defaultModules p := by
  unfold writtenParameter WrittenParameter.modules
  congr 1
  · cases p.type <;> simp
  · cases hDefault : p.default with
    | none => rw [Option.map_none, defaultModules, hDefault]
    | some v => exact modules_render_of hDefault

theorem modules_written (m : Method) :
    m.written.modules
      = (m.returns.toList.flatMap fun t => (Piece.write (t.pieces ⟨m, none⟩ true)).modules) ++
        m.parameters.flatMap fun p => (m.writtenParameter p).modules := by
  have hDeclaration : (declarationText m.written.declaration).modules
      = m.parameters.flatMap fun p => (m.writtenParameter p).modules := by
    rw [declarationText, written, List.flatMap_map, declarationOf, List.flatMap_cons]
    exact flatMap_ofParameters rfl rfl _ _ _
  rw [ForwardingMethod.modules, hDeclaration, written]
  cases m.returns <;> simp

theorem mem_modules_written {m : Method} {module : String} :
    module ∈ m.written.modules ↔
      (∃ hint ∈ m.hints, module ∈ (Piece.write (hint.2.pieces hint.1 true)).modules) ∨
        ∃ p ∈ m.parameters, module ∈ m.defaultModules p := by
  rw [modules_written, hints]
  simp only [modules_writtenParameter, List.mem_append, List.mem_flatMap, List.mem_map,
    Option.mem_toList]
  constructor
  · rintro (⟨t, hType, hMem⟩ | ⟨p, hParameter, ⟨t, hType, hMem⟩ | hMem⟩)
    · exact .inl ⟨_, .inl ⟨t, hType, rfl⟩, hMem⟩
    · exact .inl ⟨_, .inr ⟨p, hParameter, t, hType, rfl⟩, hMem⟩
    · exact .inr ⟨p, hParameter, hMem⟩
  · rintro (⟨_, ⟨t, hType, rfl⟩ | ⟨p, hParameter, t, hType, rfl⟩, hMem⟩ | ⟨p, hParameter, hMem⟩)
    · exact .inl ⟨t, hType, hMem⟩
    · exact .inr ⟨p, hParameter, .inl ⟨t, hType, hMem⟩⟩
    · exact .inr ⟨p, hParameter, .inr hMem⟩

theorem mem_defaultModules {m : Method} {p : Parameter} {module : String} :
    module ∈ m.defaultModules p ↔
      ∃ v, p.default = some v ∧ v.isLiteral = false ∧ m.declaring.module = some module := by
  unfold defaultModules
  cases p.default with
  | none => simp
  | some v => cases hLiteral : v.isLiteral <;> simp [hLiteral]

end Method

namespace Target

theorem mem_imports {target : Target} {className module : String} :
    module ∈ (target.written className).imports ↔
      module = target.module ∨ ∃ m ∈ target.forwarded, module ∈ m.written.modules := by
  rw [ClassSource.imports, mem_sortedUnique, List.mem_cons, written, List.flatMap_map,
    List.mem_flatMap]

theorem mem_imports_iff_qualified (target : Target) (className : String) (module : String) :
    module ∈ (target.written className).imports ↔
      ∃ name, .qualified module name ∈ target.pieces className := by
  rw [← Piece.mem_modules_write, mem_imports]
  unfold pieces
  simp [Piece.modules_write_flatMap, Piece.modules_write_cons, Method.mem_modules_pieces,
    Piece.module?]

theorem mem_hints {target : Target} {hint : HintSite × TypeExpr} :
    hint ∈ target.hints ↔ ∃ m ∈ target.forwarded, hint ∈ m.hints :=
  List.mem_flatMap

theorem mem_modules_hint {hint : HintSite × TypeExpr} {module : String} :
    module ∈ (Piece.write (hint.2.pieces hint.1 true)).modules ↔
      ∃ t ∈ hint.2.names, (hint.1.piece t).module? = some module := by
  rw [TypeExpr.modules_pieces, List.mem_filterMap]

theorem mem_imports_iff_uses (target : Target) (className : String) (module : String) :
    module ∈ (target.written className).imports ↔ target.Uses module := by
  rw [mem_imports]
  simp only [Method.mem_modules_written, mem_modules_hint, HintSite.module?_piece,
    Method.mem_defaultModules]
  constructor
  · rintro (hOwn | ⟨m, hForwarded,
      ⟨hint, hHint, t, hName, hStatic, resolved, hRefers, hBuiltin, hIn⟩
      | ⟨p, hParameter, v, hDefault, hLiteral, hIn⟩⟩)
    · exact .header hOwn
    · have hWritten : (hint.1, t) ∈ namesOf target.hints :=
        mem_namesOf.2 ⟨hint, mem_hints.2 ⟨m, hForwarded, hHint⟩, rfl, hName⟩
      exact .hint hWritten hRefers hStatic hBuiltin hIn
    · exact .default hForwarded hParameter hDefault hLiteral hIn
  · rintro (hOwn | ⟨hWritten, hRefers, hStatic, hBuiltin, hIn⟩
      | ⟨hForwarded, hParameter, hDefault, hLiteral, hIn⟩)
    · exact .inl hOwn
    · obtain ⟨hint, hHint, rfl, hName⟩ := mem_namesOf.1 hWritten
      obtain ⟨m, hForwarded, hHint⟩ := mem_hints.1 hHint
      exact .inr ⟨m, hForwarded, .inl ⟨hint, hHint, _, hName, hStatic, _, hRefers, hBuiltin, hIn⟩⟩
    · exact .inr ⟨_, hForwarded, .inr ⟨_, hParameter, _, hDefault, hLiteral, hIn⟩⟩

end Target

/-! ## Rendering -/

section Rendering

variable {path : ModulePath} {world world' : World} {target : Target} {className : String}

/-- A name that can be written is that of the class of the receiver, builtin, or in a module. -/
theorem piece_of_nameOf {site : HintSite} {t : NamedType} {r : Rendered}
    (h : outcome (Hint.nameOf path site t) world = (.ok r, world')) :
    t.name = "static" ∨ ∃ resolved, site.resolve t = .ok resolved ∧
      (resolved.isBuiltin = true ∨ ∃ module, site.piece t = .qualified module resolved.name) := by
  unfold Hint.nameOf at h
  by_cases hStatic : t.name = "static"
  · exact .inl hStatic
  cases hResolve : site.resolve t with
  | error failure =>
    rw [hResolve] at h
    cases h
  | ok resolved =>
    refine .inr ⟨resolved, rfl, ?_⟩
    cases hBuiltin : resolved.isBuiltin with
    | true => exact .inl rfl
    | false =>
      cases hModule : resolved.module with
      | none =>
        simp only [hResolve, MonadExcept.ofExcept, pure_bind, if_neg hStatic, hBuiltin, hModule] at h
        cases h
      | some module =>
        refine .inr ⟨module, ?_⟩
        rw [HintSite.piece, if_neg hStatic, hResolve]
        simp [hBuiltin, NamedType.piece, hModule]

theorem classSource_of_forwarded {other : Target} (hModule : other.module = target.module)
    (hName : other.name = target.name) (hForwarded : other.forwarded = target.forwarded) :
    ClassSource.of path other className = ClassSource.of path target className := by
  unfold ClassSource.of
  rw [Target.forwarded, Target.forwarded] at hForwarded
  simp only [Surface.isNone_skipReason, hModule, hName, hForwarded]

theorem outcome_of_factors {α : Type} {x : Importing α} {effects : Importing PUnit} {a : α}
    (h : Factors x effects a) (world : World) :
    outcome x world = ((outcome effects world).1.map fun _ => a, (outcome effects world).2) := by
  rw [Factors] at h
  rw [h, outcome_bind]
  cases outcome effects world with
  | mk r world' => cases r <;> rfl

theorem eq_of_outcome {α : Type} {x : Importing α} {effects : Importing PUnit} {a r : α}
    (h : Factors x effects a) (hOk : outcome x world = (.ok r, world')) : r = a := by
  rw [outcome_of_factors h, Prod.mk.injEq] at hOk
  obtain ⟨_, -, hEq⟩ := map_eq_ok_iff.1 hOk.1
  exact hEq.symm

/-! In a complete world, rendering comes to what it comes to without imports. -/

theorem outcome_nameOf_of_isComplete (h : world.IsComplete path) (site : HintSite)
    (t : NamedType) :
    outcome (Hint.nameOf path site t) world = (Hint.nameOf world site t, world) := by
  unfold Hint.nameOf
  cases site.resolve t with
  | error failure => rfl
  | ok resolved =>
    simp only [MonadExcept.ofExcept, pure_bind]
    split
    next => rfl
    next =>
      split
      next => rfl
      next =>
        have hAsk : outcome (NameSource.typeExists path resolved.module resolved.name) world
            = (NameSource.typeExists world resolved.module resolved.name, world) :=
          ModulePath.outcome_typeExists h resolved.module resolved.name
        rw [outcome_bind, hAsk]
        cases NameSource.typeExists world resolved.module resolved.name with
        | error failure => rfl
        | ok found => cases found <;> rfl

theorem outcome_checkAll_of_isComplete (h : world.IsComplete path)
    (hints : List (HintSite × TypeExpr)) :
    outcome (checkAll path hints) world = (checkAll world hints, world) := by
  refine Stateful.outcome_forM_of_stateless fun name _ => ?_
  rw [Hint.check, outcome_bind, outcome_nameOf_of_isComplete h, Hint.check]
  cases Hint.nameOf world name.1 name.2 <;> rfl

theorem outcome_classSource_of_isComplete (h : world.IsComplete path) :
    outcome (ClassSource.of path target className) world
      = (ClassSource.of world target className, world) := by
  rw [outcome_of_factors (factors_classSource path target className),
    outcome_checkAll_of_isComplete h, factors_classSource world target className]
  cases checkAll world target.hints <;> rfl

theorem piece_of_outcome {source : ClassSource}
    (h : outcome (ClassSource.of path target className) world = (.ok source, world'))
    {site : HintSite} {t : NamedType} (hMem : (site, t) ∈ namesOf target.hints) :
    t.name = "static" ∨ ∃ resolved, site.resolve t = .ok resolved ∧
      (resolved.isBuiltin = true ∨ ∃ module, site.piece t = .qualified module resolved.name) := by
  rw [outcome_of_factors (factors_classSource path target className), Prod.mk.injEq] at h
  obtain ⟨_, hChecks, -⟩ := map_eq_ok_iff.1 h.1
  obtain ⟨before, after, hCheck⟩ := Stateful.exists_of_outcome_forM (Prod.ext hChecks rfl) _ hMem
  rw [Hint.check, ← Stateful.discard_eq] at hCheck
  obtain ⟨r, hName, hOk⟩ := Stateful.outcome_discard_cases hCheck
  cases r with
  | error failure => cases hOk
  | ok name => exact piece_of_nameOf hName

end Rendering

/-- Rendering yields the same for all methods that are not forwarded. The text of a hint is that of
its pieces, whatever has been imported. Where rendering succeeds, a name in a hint is that of the
class of the receiver, builtin, or qualified. The text of the module is an opening, its imports in
order, each once, and the pieces of the target; the imports are the modules of the qualified names
among the pieces, and these are those of the target, of the hints and of the default values that are
looked up. Rendering fails as the first hint does that fails where those before it have been
written; where writing a hint imports nothing more, this is the first one that fails on its own. -/
theorem imports_exactly_used (path : ModulePath) (world : World) (target : Target)
    (className : String) :
    (∀ other : Target, other.module = target.module → other.name = target.name →
      other.forwarded = target.forwarded →
      ClassSource.of path other className = ClassSource.of path target className) ∧
    (∀ hint r before after, outcome (Hint.write path hint) before = (.ok r, after) →
      r = Piece.write (hint.2.pieces hint.1 true)) ∧
    (∀ source after, outcome (ClassSource.of path target className) world = (.ok source, after) →
      (∀ site t, (site, t) ∈ namesOf target.hints →
        t.name = "static" ∨ ∃ resolved, site.resolve t = .ok resolved ∧
          (resolved.isBuiltin = true ∨
            ∃ module, site.piece t = .qualified module resolved.name)) ∧
      source.text = ClassSource.opening
        ++ String.join (source.imports.map fun module => "import " ++ module ++ "\n")
        ++ (Piece.write (target.pieces className)).text ∧
      source.imports.Pairwise (· < ·) ∧
      ∀ module,
        (module ∈ source.imports ↔ ∃ name, .qualified module name ∈ target.pieces className) ∧
        (module ∈ source.imports ↔ target.Uses module)) ∧
    (∀ failure after,
      outcome (ClassSource.of path target className) world = (.error failure, after) ↔
        ∃ earlier hint later between, target.hints = earlier ++ hint :: later ∧
          outcome (forM earlier fun other => discard (Hint.write path other)) world
            = (.ok ⟨⟩, between) ∧
          outcome (Hint.write path hint) between = (.error failure, after)) ∧
    ((∀ hint ∈ target.hints, (outcome (Hint.write path hint) world).2 = world) →
      (outcome (ClassSource.of path target className) world).2 = world ∧
      ∀ failure, (outcome (ClassSource.of path target className) world).1 = .error failure ↔
        ∃ earlier hint later, target.hints = earlier ++ hint :: later ∧
          (∀ other ∈ earlier, ∃ r, (outcome (Hint.write path other) world).1 = .ok r) ∧
          (outcome (Hint.write path hint) world).1 = .error failure) := by
  have hRender := factors_classSource path target className
  refine ⟨fun _ hModule hName hForwarded => classSource_of_forwarded hModule hName hForwarded,
    ?_, fun source after hSource => ?_, fun failure after => ?_, fun hSettled => ?_⟩
  · exact fun hint r before after hWrite =>
      eq_of_outcome (Hint.factors_ofType path hint.1 true hint.2) hWrite
  · obtain rfl := eq_of_outcome hRender hSource
    exact ⟨fun site t => piece_of_outcome hSource, target.text_written className,
      pairwise_sortedUnique _, fun module => ⟨target.mem_imports_iff_qualified className module,
        target.mem_imports_iff_uses className module⟩⟩
  · rw [outcome_of_factors hRender, Prod.mk.injEq, map_eq_error_iff, ← Prod.mk.injEq, Prod.mk.eta,
      checkAll_eq, Stateful.outcome_forM_eq_error_iff]
    simp only [outcome_discard, map_eq_error_iff, Prod.ext_iff]
  · have hEach : ∀ hint ∈ target.hints,
        (outcome (discard (Hint.write path hint)) world).2 = world := by
      intro hint hMem
      rw [outcome_discard]
      exact hSettled hint hMem
    obtain ⟨hLeft, hFails⟩ := Stateful.outcome_forM_of_settled hEach
    rw [← checkAll_eq] at hLeft hFails
    rw [outcome_of_factors hRender]
    refine ⟨hLeft, fun failure => ?_⟩
    rw [map_eq_error_iff, hFails]
    simp only [outcome_discard, map_eq_ok_iff, map_eq_error_iff, and_true]

theorem outcome_checkAll_singleton (path : ModulePath) (hint : HintSite × TypeExpr)
    (world : World) :
    outcome (checkAll path [hint]) world = outcome (discard (Hint.write path hint)) world := by
  rw [checkAll_eq, List.forM_cons, List.forM_nil, bind_pure_unit]

namespace Imports.Sample

def base : ClassRef := ⟨"b", "Base", 1, false⟩

def item : ClassRef := ⟨"a", "Item", 2, false⟩

def world : World where
  modules := [⟨"b", false, [("Base", .cls base)]⟩]
  classes := []
  memory := []

/-- A module that has not been imported. -/
def path : ModulePath :=
  .ofModules [⟨"a", false, [("Item", .cls item)]⟩]

def items : TypeExpr :=
  .generic (.builtin "dict") [.named (.builtin "str"), .named (.ofClass item)] false

/-- A parameter with a default value that is no literal. -/
def parameter : Parameter :=
  ⟨"items", .positionalOrKeyword, some items, some (.object "missing")⟩

def add : Method where
  name := "add"
  declaring := .ofClass base
  parameters := [parameter]

def lost : TypeExpr := .named { name := "Missing", module := some "z" }

/-- A static method, which is not forwarded. -/
def make : Method :=
  { name := "make", declaring := .ofClass base, isStatic := true, returns := some lost }

def target : Target := ⟨"m", "Record", [make, add]⟩

def direct : TypeExpr := .named { name := "Headers", module := some "wsgiref.headers" }

def through : TypeExpr := .named { name := "headers.Headers", module := some "wsgiref" }

def empty : World := ⟨[], [], []⟩

def named : Parameter :=
  { name := "a", kind := .positionalOrKeyword, type := some direct }

def sent : Parameter :=
  { name := "b", kind := .positionalOrKeyword, type := some through }

/-- A method with two parameters. -/
def send (first second : Parameter) : Method where
  name := "send"
  declaring := { name := "C", module := some "m" }
  parameters := [first, second]

/-- The world in which the module of the first name has been imported. -/
def loaded : World where
  modules := [⟨"wsgiref", true, [("headers", .module "wsgiref.headers")]⟩,
    ⟨"wsgiref.headers", false, [("Headers", .cls ⟨"wsgiref.headers", "Headers", 0, false⟩)]⟩]
  classes := []
  memory := []

theorem check_direct (m : Method) :
    outcome (checkAll Library.path [(⟨m, some named⟩, direct)]) empty = (.ok ⟨⟩, loaded) := by
  have hWrite : outcome (Hint.write Library.path (⟨m, some named⟩, direct)) empty
      = (.ok ⟨"wsgiref.headers.Headers", ["wsgiref.headers"]⟩, loaded) := rfl
  rw [outcome_checkAll_singleton, outcome_discard, hWrite]
  rfl

theorem check_through (m : Method) :
    outcome (checkAll Library.path [(⟨m, some sent⟩, through)]) loaded = (.ok ⟨⟩, loaded) := by
  have hWrite : outcome (Hint.write Library.path (⟨m, some sent⟩, through)) loaded
      = (.ok ⟨"wsgiref.headers.Headers", ["wsgiref"]⟩, loaded) := rfl
  rw [outcome_checkAll_singleton, outcome_discard, hWrite]
  rfl

end Imports.Sample

open Imports.Sample in
/-- An argument of a hint and the class that is asked for a default value are imported beside the
target, but nothing for the static method, whose hint could not be written. -/
theorem imports_exactly_used_of_sentinel :
    (∃ source after,
      outcome (ClassSource.of path target "mRecordPersistent") world = (.ok source, after) ∧
      source.imports.Pairwise (· < ·) ∧ "a" ∈ source.imports ∧ "b" ∈ source.imports ∧
      "m" ∈ source.imports ∧ "z" ∉ source.imports) ∧
    ClassSource.of path ⟨"m", "Record", [add]⟩ "mRecordPersistent"
      = ClassSource.of path target "mRecordPersistent" := by
  have hForwarded : target.forwarded = [add] := rfl
  have hNames : namesOf target.hints = [(⟨add, some parameter⟩, .builtin "dict"),
      (⟨add, some parameter⟩, .builtin "str"), (⟨add, some parameter⟩, .ofClass item)] := by
    rw [Target.hints, hForwarded]
    rfl
  obtain ⟨hOthers, -, hImports, -⟩ := imports_exactly_used path world target "mRecordPersistent"
  refine ⟨?_, hOthers _ rfl rfl rfl⟩
  obtain ⟨-, -, hSorted, hUses⟩ := hImports _ _ rfl
  refine ⟨_, _, rfl, hSorted, (hUses _).2.2 ?_, (hUses _).2.2 ?_, (hUses _).2.2 (.header rfl),
    fun hMem => ?_⟩
  · have hWritten : (⟨add, some parameter⟩, .ofClass item) ∈ namesOf target.hints := by
      rw [hNames]
      exact List.mem_of_getElem? (i := 2) rfl
    exact .hint hWritten rfl (by decide) rfl rfl
  · exact .default (hForwarded ▸ List.mem_singleton_self add) (List.mem_singleton_self parameter)
      rfl rfl rfl
  · obtain hOwn | ⟨hWritten, hRefers, -, hBuiltin, hIn⟩ | ⟨hMem, -, -, -, hIn⟩ :=
      (hUses "z").2.1 hMem
    · exact absurd hOwn (by decide)
    · rw [hNames] at hWritten
      simp only [List.mem_cons, List.not_mem_nil, or_false] at hWritten
      obtain ⟨⟨⟩⟩ | ⟨⟨⟩⟩ | ⟨⟨⟩⟩ := hWritten
      · cases hRefers
        cases hBuiltin
      · cases hRefers
        cases hBuiltin
      · cases hRefers
        exact absurd hIn (by decide)
    · obtain rfl := List.mem_singleton.1 (hForwarded ▸ hMem)
      exact absurd hIn (by decide)

open Imports.Sample in
/-- A hint that names a module makes it available in its package, for the hints after it: in this
order both hints are written, but the second name leads to nothing on its own, and neither does it
in front of the other one. -/
theorem hint_depends_on_earlier_import :
    (∃ source, outcome (ClassSource.of Library.path ⟨"m", "C", [send named sent]⟩ "mCPersistent")
      empty = (.ok source, loaded)) ∧
    (outcome (Hint.write Library.path (⟨send named sent, some sent⟩, through)) empty).1
      = .error (.invalidParameterHint "m.C" "send" "b") ∧
    (outcome (ClassSource.of Library.path ⟨"m", "C", [send sent named]⟩ "mCPersistent") empty).1
      = .error (.invalidParameterHint "m.C" "send" "b") := by
  have hHints : Target.hints ⟨"m", "C", [send named sent]⟩
      = [(⟨send named sent, some named⟩, direct), (⟨send named sent, some sent⟩, through)] := rfl
  have hChecks : outcome (checkAll Library.path (Target.hints ⟨"m", "C", [send named sent]⟩)) empty
      = (.ok ⟨⟩, loaded) := by
    rw [hHints, ← List.singleton_append, checkAll_append, outcome_bind, check_direct]
    exact check_through _
  refine ⟨⟨Target.written ⟨"m", "C", [send named sent]⟩ "mCPersistent", ?_⟩, rfl, rfl⟩
  rw [outcome_of_factors (factors_classSource Library.path _ _), hChecks]
  rfl

end Interpose

import Interpose.Proofs.Rendering.Factoring

/-! # Hints that are refused

A name in a hint is bad if it is that of the parent where there is none, or if what it refers to is
neither builtin nor found. A hint is refused exactly if a name in it is bad, at any depth, and the
first one is blamed. A target is refused exactly if a name in a hint of a forwarded method is bad;
of each method the result is looked at first and then the parameters in order.
-/
namespace Interpose

set_option autoImplicit false

open Sequence

/-- Whether a module can be asked for under the name of its module. -/
def NamedType.IsImportable (t : NamedType) : Prop :=
  ∀ module ∈ t.module, module ≠ "" ∧ module.toList.head? ≠ some '.'

instance : DecidablePred NamedType.IsImportable := fun t =>
  inferInstanceAs (Decidable (∀ module ∈ t.module, module ≠ "" ∧ module.toList.head? ≠ some '.'))

namespace HintSite

/-- The names for which nothing can be written at a site. -/
inductive IsBad (world : World) (site : HintSite) (t : NamedType) : Prop
  | orphan (isParent : t.name = "parent") (noParent : site.method.parent = none)
  | unknown (resolved : NamedType) (refers : site.resolve t = .ok resolved)
      (notStatic : t.name ≠ "static") (notBuiltin : resolved.isBuiltin = false)
      (notFound : world.typeExists resolved.module resolved.name = .ok false)

/-- What a bad name is refused with. -/
def blame (site : HintSite) (t : NamedType) : Failure :=
  if t.name = "parent" ∧ site.method.parent = none then
    .parentRequired site.method.declaring.qualifiedName site.method.name
  else site.invalid

end HintSite

/-- Whether a failure is that of the first bad name. -/
def IsOfFirstBad (world : World) (names : List (HintSite × NamedType)) (failure : Failure) : Prop :=
  ∃ before site name after, names = before ++ (site, name) :: after ∧
    (∀ earlier ∈ before, ¬ earlier.1.IsBad world earlier.2) ∧
    site.IsBad world name ∧ failure = site.blame name

/-! ## One name -/

namespace World

variable {world : World}

theorem isImport_of_importChain {before : Option String} {names : List String} {failure : Failure}
    (h : world.importChain before names = .error failure) : failure.isImport = true := by
  induction names generalizing before with
  | nil => cases h
  | cons name names ih =>
    rw [importChain] at h
    split at h
    next => exact ih h
    next =>
      cases h
      rfl

variable (world) in
theorem exists_typeExists {t : NamedType} (h : t.IsImportable) :
    ∃ found, world.typeExists t.module t.name = .ok found := by
  unfold typeExists
  split
  next => exact ⟨false, rfl⟩
  next module hModule =>
    obtain ⟨hSome, hAbsolute⟩ := h module hModule
    split
    next =>
      split
      next => exact ⟨false, rfl⟩
      next found _ => exact ⟨isTypeObject found.object, rfl⟩
    next failure hFails =>
      rw [importModule, if_neg hSome, if_neg hAbsolute] at hFails
      exact ⟨false, if_pos (isImport_of_importChain hFails)⟩

end World

namespace HintSite

variable {world : World} {site : HintSite} {t : NamedType}

theorem resolve_eq_error_iff {failure : Failure} :
    site.resolve t = .error failure ↔
      (t.name = "parent" ∧ site.method.parent = none) ∧ failure = site.blame t := by
  by_cases hSelf : t.name = "self"
  · simp [resolve, hSelf]
  by_cases hParent : t.name = "parent"
  · cases hBase : site.method.parent <;> simp [resolve, blame, hParent, hBase, eq_comm]
  · simp [resolve, hSelf, hParent]

theorem not_orphan_of_resolve {resolved : NamedType} (h : site.resolve t = .ok resolved) :
    ¬ (t.name = "parent" ∧ site.method.parent = none) :=
  fun hOrphan => nomatch h.symm.trans (resolve_eq_error_iff.2 ⟨hOrphan, rfl⟩)

/-- A name fails exactly if it is bad, and then as it is blamed for. -/
theorem failure?_nameOf (hImportable : site.Refers NamedType.IsImportable t) (failure : Failure) :
    failure? (Hint.nameOf world site t) = some failure ↔
      site.IsBad world t ∧ failure = site.blame t := by
  rw [failure?_eq_some_iff, Hint.nameOf_world, bind_eq_error_iff, resolve_eq_error_iff]
  constructor
  · rintro (⟨⟨hParent, hNone⟩, hBlame⟩ | ⟨resolved, hResolved, h⟩)
    · exact ⟨.orphan hParent hNone, hBlame⟩
    · split at h
      next => cases h
      next hStatic =>
        split at h
        next => cases h
        next hBuiltin =>
          obtain ⟨found, hExists⟩ :=
            world.exists_typeExists (hImportable resolved hResolved)
          rw [hExists] at h
          cases found with
          | true => cases h
          | false =>
            cases h
            refine ⟨.unknown resolved hResolved hStatic (by simpa using hBuiltin) hExists, ?_⟩
            rw [blame, if_neg (not_orphan_of_resolve hResolved)]
  · rintro ⟨hBad, hBlame⟩
    cases hBad with
    | orphan hParent hNone => exact .inl ⟨⟨hParent, hNone⟩, hBlame⟩
    | unknown resolved hResolved hStatic hBuiltin hExists =>
      refine .inr ⟨resolved, hResolved, ?_⟩
      rw [if_neg hStatic, hBuiltin, hExists, hBlame, blame,
        if_neg (not_orphan_of_resolve hResolved)]
      rfl

instance {condition : NamedType → Prop} [DecidablePred condition] :
    Decidable (site.Refers condition t) :=
  match h : site.resolve t with
  | .ok resolved =>
    decidable_of_iff (condition resolved) ⟨refers_of_resolve h, fun hRefers => hRefers resolved h⟩
  | .error _ => .isTrue fun _ hResolved => nomatch h.symm.trans hResolved

end HintSite

/-! ## Names in order -/

section Order

variable {world : World} {names : List (HintSite × NamedType)}

/-- Whether something is refused exactly if one of some names is bad, and as the first one is. -/
def FailsAtFirstBad {α : Type} (world : World) (result : Except Failure α)
    (names : List (HintSite × NamedType)) : Prop :=
  ((∃ failure, result = .error failure) ↔ ∃ name ∈ names, name.1.IsBad world name.2) ∧
    ∀ failure, result = .error failure ↔ IsOfFirstBad world names failure

theorem failure?_eq_none (name : HintSite × NamedType)
    (hImportable : name.1.Refers NamedType.IsImportable name.2) :
    failure? (Hint.nameOf world name.1 name.2) = none ↔ ¬ name.1.IsBad world name.2 := by
  rw [Option.eq_none_iff_forall_ne_some]
  simp only [ne_eq, HintSite.failure?_nameOf hImportable]
  exact ⟨fun hNone hBad => hNone _ ⟨hBad, rfl⟩, fun hGood _ hFails => hGood hFails.1⟩

theorem isOfFirstBad_iff (hImportable : ∀ name ∈ names, name.1.Refers NamedType.IsImportable name.2)
    (failure : Failure) :
    (names.findSome? fun name => failure? (Hint.nameOf world name.1 name.2)) = some failure ↔
      IsOfFirstBad world names failure := by
  rw [List.findSome?_eq_some_iff]
  constructor
  · rintro ⟨before, ⟨site, name⟩, after, rfl, hFails, hEarlier⟩
    rw [List.forall_mem_append, List.forall_mem_cons] at hImportable
    obtain ⟨hBefore, hHere, -⟩ := hImportable
    obtain ⟨hBad, hBlame⟩ := (HintSite.failure?_nameOf hHere failure).1 hFails
    refine ⟨before, site, name, after, rfl, fun earlier hMem => ?_, hBad, hBlame⟩
    exact (failure?_eq_none earlier (hBefore earlier hMem)).1 (hEarlier earlier hMem)
  · rintro ⟨before, site, name, after, rfl, hEarlier, hBad, hBlame⟩
    rw [List.forall_mem_append, List.forall_mem_cons] at hImportable
    obtain ⟨hBefore, hHere, -⟩ := hImportable
    refine ⟨before, (site, name), after, rfl, ?_, fun earlier hMem => ?_⟩
    · exact (HintSite.failure?_nameOf hHere failure).2 ⟨hBad, hBlame⟩
    · exact (failure?_eq_none earlier (hBefore earlier hMem)).2 (hEarlier earlier hMem)

theorem failsAtFirstBad {α : Type} {result : Except Failure α}
    (hImportable : ∀ name ∈ names, name.1.Refers NamedType.IsImportable name.2)
    (h : failure? result
      = names.findSome? fun name => failure? (Hint.nameOf world name.1 name.2)) :
    FailsAtFirstBad world result names := by
  have hFirst : ∀ failure, result = .error failure ↔ IsOfFirstBad world names failure := by
    intro failure
    rw [← failure?_eq_some_iff, h, isOfFirstBad_iff hImportable]
  refine ⟨⟨?_, ?_⟩, hFirst⟩
  · rintro ⟨failure, hFails⟩
    obtain ⟨before, site, name, after, rfl, -, hBad, -⟩ := (hFirst failure).1 hFails
    exact ⟨(site, name), List.mem_append_right _ List.mem_cons_self, hBad⟩
  · rintro ⟨name, hMem, hBad⟩
    by_contra hNone
    rw [not_exists] at hNone
    simp only [← failure?_eq_some_iff, ← ne_eq, ← Option.eq_none_iff_forall_ne_some] at hNone
    rw [h, List.findSome?_eq_none_iff] at hNone
    exact (failure?_eq_none name (hImportable name hMem)).1 (hNone name hMem) hBad

end Order

/-- A hint is refused exactly if it has a bad name at some depth, and blames the first one from left
to right, that of a generic type before its arguments. A target is refused exactly if a hint of a
method that is forwarded has a bad name, and blames the first one in the order of the methods, each
with its result before its parameters. The modules of the names have to be such that they can be
asked for. -/
theorem refused_at_first_bad_name (world : World) :
    (∀ (site : HintSite) (top : Bool) (t : TypeExpr),
      (∀ name ∈ t.names, site.Refers NamedType.IsImportable name) →
      FailsAtFirstBad world (Hint.ofType world site top t)
        (t.names.map fun name => (site, name))) ∧
    ∀ (target : Target) (className : String),
      (∀ name ∈ namesOf target.hints, name.1.Refers NamedType.IsImportable name.2) →
      FailsAtFirstBad world (ClassSource.of world target className) (namesOf target.hints) := by
  refine ⟨fun site top t hImportable => ?_, fun target className hImportable => ?_⟩
  · refine failsAtFirstBad (fun name hMem => ?_) ?_
    · obtain ⟨t, hName, rfl⟩ := List.mem_map.1 hMem
      exact hImportable t hName
    · rw [Hint.failure?_ofType, List.findSome?_map]
      rfl
  · exact failsAtFirstBad hImportable
      ((failure?_classSource target className).trans (findSome?_hints target.hints))

namespace Refusal.Sample

open RenderedHint.Sample

def missing : TypeExpr := .named { name := "Missing", module := some "m" }

/-- A static method, which is not forwarded. -/
def make : Method :=
  { name := "make", declaring := .ofClass record, isStatic := true, returns := some missing }

def item : Parameter where
  name := "item"
  kind := .positionalOrKeyword
  type := some (.union [
    .named (.unresolved "self"),
    .generic (.builtin "dict") [missing, .named (.unresolved "parent")] false])

def add : Method where
  name := "add"
  declaring := .ofClass record
  returns := some (.named (.unresolved "static"))
  parameters := [item]

def target : Target := ⟨"m", "Record", [make, add]⟩

/-- The names before the first bad one. -/
def earlierNames : List (HintSite × NamedType) :=
  [(⟨add, none⟩, .unresolved "static"), (⟨add, some item⟩, .unresolved "self"),
    (⟨add, some item⟩, .builtin "dict")]

end Refusal.Sample

open Refusal.Sample RenderedHint.Sample in
/-- The first bad name is an argument of a parameter's type, before the name of a parent that there
is not. The hint of the static method is as bad, but is not looked at. -/
theorem refused_at_first_bad_name_of_argument :
    ClassSource.of world target "mRecordPersistent"
        = .error (.invalidParameterHint "m.Record" "add" "item") ∧
      Hint.ofType world ⟨make, none⟩ true missing
        = .error (.invalidReturnHint "m.Record" "make") := by
  obtain ⟨hHints, hTargets⟩ := refused_at_first_bad_name world
  have hBad : ∀ site, HintSite.IsBad world site { name := "Missing", module := some "m" } :=
    fun site => .unknown _ rfl (by decide) rfl rfl
  have hGood : ∀ earlier ∈ earlierNames, ¬ earlier.1.IsBad world earlier.2 := by
    have hFound : ∀ earlier ∈ earlierNames,
        failure? (Hint.nameOf world earlier.1 earlier.2) = none := by
      simp only [earlierNames, List.forall_mem_cons]
      exact ⟨rfl, rfl, rfl, List.forall_mem_nil _⟩
    have hImportable :
        ∀ earlier ∈ earlierNames, earlier.1.Refers NamedType.IsImportable earlier.2 := by
      decide
    exact fun earlier hMem => (failure?_eq_none _ (hImportable _ hMem)).1 (hFound _ hMem)
  have hForwarded : target.forwarded = [add] := rfl
  have hNames : namesOf target.hints = earlierNames ++
      (⟨add, some item⟩, { name := "Missing", module := some "m" }) ::
        [(⟨add, some item⟩, .unresolved "parent")] := by
    rw [Target.hints, hForwarded]
    rfl
  have hImportable :
      ∀ name ∈ namesOf target.hints, name.1.Refers NamedType.IsImportable name.2 := by
    rw [hNames]
    decide
  refine ⟨(hTargets target _ hImportable).2 _ |>.2 ⟨_, _, _, _, hNames, hGood, hBad _, rfl⟩, ?_⟩
  refine (hHints ⟨make, none⟩ true missing (by decide)).2 _ |>.2 ?_
  exact ⟨[], _, _, [], rfl, List.forall_mem_nil _, hBad _, rfl⟩

end Interpose

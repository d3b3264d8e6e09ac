import Interpose.DeclaredDefault
import Interpose.Proofs.Surface
import Mathlib.Data.List.Nodup

/-! # Declared defaults are recorded

The default value that introspection records for a parameter of a forwarded method is the one that
the declaring class declares: asked for the default value of that parameter, the class yields the
recorded one.
-/
namespace Interpose

set_option autoImplicit false

open Sequence

/-- The parameters that an attribute declares, as far as they are known. -/
def Attribute.parameters : Attribute → List DeclaredParameter
  | .function r | .staticMethod r | .classMethod r => r.parameters
  | .native _ parameters _ => parameters.getD []
  | .property _ | .descriptor | .plain _ => []

namespace World

variable (world : World)

/-- Whether a class and its ancestors are as classes always are: the order of resolution of a class
begins with itself, and the parameters of a method differ in their names. -/
structure IsRegular (c : ClassRef) : Prop where
  first : ∀ entry ∈ world.surface c, (world.resolution entry.1).head? = some entry.1
  distinct : ∀ entry ∈ world.surface c,
    (entry.2.2.parameters.map DeclaredParameter.name).Nodup

variable {world}

theorem lookup_of_firstAttribute {name : String} {classes : List ClassRef} {k : ClassRef}
    {item : Attribute} (h : world.firstAttribute? name classes = some (k, item)) :
    (world.attributes k).lookup name = some item := by
  induction classes with
  | nil => cases h
  | cons c classes ih =>
    rw [firstAttribute?] at h
    split at h
    next item hHere =>
      cases h
      exact hHere
    next => exact ih h

/-- An attribute that decides what a class can do is what its holder has under its name. -/
theorem lookup_of_mem_surface {c : ClassRef} {entry : Entry} (h : entry ∈ world.surface c) :
    (world.attributes entry.1).lookup entry.2.1 = some entry.2.2 := by
  have hNamed : entry ∈ (world.surface c).filter fun other => other.2.1 == entry.2.1 :=
    List.mem_filter.2 ⟨h, beq_self_eq_true _⟩
  rw [Surface.filter_surface] at hNamed
  split at hNamed
  next =>
    obtain ⟨⟨k, item⟩, hFirst, hEntry⟩ := Option.map_eq_some_iff.1 (Option.mem_toList.1 hNamed)
    rw [← hEntry]
    exact lookup_of_firstAttribute hFirst
  next => cases hNamed

theorem memberNamed?_of_lookup {k : ClassRef} {name : String} {item : Attribute}
    (hFirst : (world.resolution k).head? = some k)
    (hLookup : (world.attributes k).lookup name = some item) (hOwn : name ∉ classOwnNames) :
    world.memberNamed? k name = some item := by
  obtain ⟨rest, hResolution⟩ := List.head?_eq_some_iff.1 hFirst
  have hClass : world.classAttribute? k name = some (k, item) := by
    rw [classAttribute?, hResolution, firstAttribute?, hLookup]
  rw [memberNamed?, List.contains_iff_mem.not.2 hOwn |> Bool.eq_false_iff.2, hClass]
  rfl

/-! ## Recorded parameters -/

theorem dropReceiver_sublist (ps : List DeclaredParameter) : (dropReceiver ps).Sublist ps := by
  cases ps with
  | nil => exact .slnil
  | cons p ps =>
    rw [dropReceiver]
    split
    · exact List.sublist_cons_self p ps
    · exact List.Sublist.refl _

theorem mem_of_mem_dropReceiver {ps : List DeclaredParameter} {p : DeclaredParameter}
    (h : p ∈ dropReceiver ps) : p ∈ ps :=
  (dropReceiver_sublist ps).subset h

theorem declared_of_methodOf {k : ClassRef} {name : String} {isStatic : Bool} {r : Routine}
    {m : Method} (h : world.methodOf k name isStatic true r = .ok m) :
    r.isReadable = true ∧ ∀ p ∈ m.parameters,
      ∃ d ∈ r.parameters, d.name = p.name ∧ d.default = p.default := by
  obtain ⟨hReadable, parameters, returns, hParameters, -, rfl⟩ := Surface.methodOf_eq_ok h
  refine ⟨hReadable, fun p hMem => ?_⟩
  obtain ⟨d, hDropped, hParameter⟩ := exists_of_mem_of_mapM_eq_ok hParameters hMem
  obtain ⟨type, -, ⟨⟩⟩ := bind_eq_ok_iff.1 hParameter
  exact ⟨d, mem_of_mem_dropReceiver hDropped, rfl, rfl⟩

theorem find?_of_nodup {ps : List DeclaredParameter} (hDistinct : (ps.map (·.name)).Nodup)
    {p : DeclaredParameter} (hMem : p ∈ ps) : (ps.find? fun q => q.name == p.name) = some p := by
  have hSome : (ps.find? fun q => q.name == p.name).isSome :=
    List.find?_isSome.2 ⟨p, hMem, beq_self_eq_true _⟩
  obtain ⟨q, hFound⟩ := Option.isSome_iff_exists.1 hSome
  have hName : q.name = p.name := by simpa using List.find?_some hFound
  rw [hFound, List.inj_on_of_nodup_map hDistinct (List.mem_of_find?_eq_some hFound) hMem hName]

/-- The parameters of a method that is not static are read as they are recorded, and where a default
value is recorded, it is one of theirs. -/
theorem callParameters_of_describes {entry : Entry} {m : Method} (h : world.Describes entry m)
    (hStatic : m.isStatic = false) {p : Parameter} (hMem : p ∈ m.parameters) {v : Value}
    (hDefault : p.default = some v) :
    world.callParameters entry.2.2 = .ok entry.2.2.parameters ∧
      ∃ d ∈ entry.2.2.parameters, d.name = p.name ∧ d.default = some v := by
  obtain ⟨k, name, item⟩ := entry
  have hKind : item.isStatic = false := h.isStatic.symm.trans hStatic
  have hAny : p ∉ anyParameters := by
    intro hAny
    obtain rfl | rfl := List.mem_pair.1 hAny <;> cases hDefault
  have hConverted := h.converted
  cases item with
  | staticMethod r | classMethod r => cases hKind
  | property r | plain object => cases hConverted
  | descriptor =>
    cases hConverted
    exact absurd hMem hAny
  | function r =>
    obtain ⟨_, hMethod, hSame⟩ := map_eq_ok_iff.1 hConverted
    cases hSame
    obtain ⟨hReadable, hParameters⟩ := declared_of_methodOf hMethod
    obtain ⟨d, hDeclared, hName, hValue⟩ := hParameters p hMem
    exact ⟨if_pos hReadable, d, hDeclared, hName, hValue.trans hDefault⟩
  | native label parameters ofClass =>
    cases parameters with
    | none =>
      cases hConverted
      exact absurd hMem hAny
    | some parameters =>
      obtain rfl : ofClass = false := hKind
      obtain ⟨_, hMethod, hSame⟩ := map_eq_ok_iff.1 hConverted
      cases hSame
      obtain ⟨-, hParameters⟩ := declared_of_methodOf hMethod
      obtain ⟨d, hDeclared, hName, hValue⟩ := hParameters p hMem
      exact ⟨rfl, d, hDeclared, hName, hValue.trans hDefault⟩

/-- Asked for the default value of a parameter, a class yields the one that has been recorded. -/
theorem declaredDefault_of_describes {c : ClassRef} (hRegular : world.IsRegular c) {entry : Entry}
    (hSurface : entry ∈ world.surface c) {m : Method} (h : world.Describes entry m)
    (hStatic : m.isStatic = false) (hOwn : m.name ∉ classOwnNames) {p : Parameter}
    (hMem : p ∈ m.parameters) {v : Value} (hDefault : p.default = some v) :
    world.declaredDefault entry.1 m.name p.name = .ok (some v) := by
  obtain ⟨hCall, d, hDeclared, hName, hValue⟩ :=
    callParameters_of_describes h hStatic hMem hDefault
  have hMember : world.memberNamed? entry.1 m.name = some entry.2.2 :=
    memberNamed?_of_lookup (hRegular.first entry hSurface)
      (h.name ▸ lookup_of_mem_surface hSurface) hOwn
  have hFind := find?_of_nodup (hRegular.distinct entry hSurface) hDeclared
  rw [hName] at hFind
  simp only [declaredDefault, hMember, hCall]
  refine bind_eq_ok_iff.2 ⟨_, rfl, ?_⟩
  rw [hFind, ← hValue]
  rfl

end World

end Interpose

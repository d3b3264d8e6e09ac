import Interpose.Introspection
import Interpose.Proofs.Rendering.LookUp
import Interpose.TargetName

/-! # Target names

With a colon between them the module and the qualified name of a class always lead to the class.
With a point in place of the colon they do for a class that no other class holds. The last point of
a nested class stands behind the class that holds it, so all that stands before is taken for a
module, which need not exist and, if it does, need not know the class.
-/
namespace Interpose

set_option autoImplicit false

/-! ## The text -/

section Split

variable {module qualname : String}

theorem splitTarget_colon (hModule : ':' ∉ module.toList) :
    splitTarget (module ++ ":" ++ qualname) = (module, qualname) := by
  have hText : (module ++ ":" ++ qualname).toList = module.toList ++ ':' :: qualname.toList := by
    simp
  rw [splitTarget, Text.cutFirst_of_split hText hModule]

theorem splitTarget_point (hModule : ':' ∉ module.toList) (hColon : ':' ∉ qualname.toList)
    (hPoint : '.' ∉ qualname.toList) :
    splitTarget (module ++ "." ++ qualname) = (module, qualname) := by
  have hNone : ':' ∉ (module ++ "." ++ qualname).toList := by simp [hModule, hColon]
  rw [splitTarget, Text.cutFirst_of_not_mem hNone]
  exact Text.cutLast_of_split (by simp) hPoint

end Split

/-- The leading parts of two rows of parts are those of the first, and the whole of the first with
each of those of the second. -/
theorem Text.dottedPrefixes_append {parts : List String} (hSome : parts ≠ []) (more : List String) :
    dottedPrefixes (parts ++ more) = dottedPrefixes parts ++
      (dottedPrefixes more).map fun rest => ".".intercalate parts ++ "." ++ rest := by
  induction parts with
  | nil => exact absurd rfl hSome
  | cons part parts ih =>
    rw [List.cons_append, dottedPrefixes, dottedPrefixes]
    by_cases hLast : parts = []
    · subst hLast
      rw [String.intercalate_singleton]
      rfl
    · rw [ih hLast, String.intercalate_cons_of_ne_nil hLast, List.map_append, List.map_map]
      simp [String.append_assoc, Function.comp_def]

theorem Text.getLast?_dottedPrefixes {parts : List String} (hSome : parts ≠ []) :
    (dottedPrefixes parts).getLast? = some (".".intercalate parts) := by
  induction parts with
  | nil => exact absurd rfl hSome
  | cons part parts ih =>
    rw [dottedPrefixes]
    by_cases hLast : parts = []
    · subst hLast
      rw [String.intercalate_singleton]
      rfl
    · rw [List.getLast?_cons, List.getLast?_map, ih hLast,
        String.intercalate_cons_of_ne_nil hLast]
      rfl

namespace World

/-- Whether a module that can be imported holds a class under a qualified name: the name, read part
by part from the module, leads to the class. -/
structure Holds (world : World) (module qualname : String) (c : ClassRef) : Prop where
  named : qualname ≠ ""
  imported : world.importModule module = .ok ()
  reached : world.Reaches (.module module) (Text.dottedParts qualname) (.value (.cls c))

variable {world : World} {c : ClassRef}

/-! ## Modules that are missing -/

theorem ne_empty_of_importModule {module : String} (h : world.importModule module = .ok ()) :
    module ≠ "" := by
  rintro rfl
  cases h

theorem importModule_eq {module : String} (hSome : module ≠ "")
    (hAbsolute : module.toList.head? ≠ some '.') :
    world.importModule module
      = world.importChain none (Text.dottedPrefixes (Text.dottedParts module)) := by
  rw [importModule, if_neg hSome, if_neg hAbsolute]

theorem importChain_of_importModule {module : String} (h : world.importModule module = .ok ()) :
    module.toList.head? ≠ some '.' ∧
      world.importChain none (Text.dottedPrefixes (Text.dottedParts module)) = .ok () := by
  rw [importModule, if_neg (ne_empty_of_importModule h)] at h
  split at h
  next => cases h
  next hAbsolute => exact ⟨hAbsolute, h⟩

theorem isSome_module?_of_importChain {before : Option String} {names : List String}
    (h : world.importChain before names = .ok ()) {name : String} (hMem : name ∈ names) :
    (world.module? name).isSome = true := by
  induction names generalizing before with
  | nil => cases hMem
  | cons first names ih =>
    rw [importChain] at h
    split at h
    next m hModule =>
      rcases List.mem_cons.1 hMem with rfl | hMem
      · rw [hModule]
        rfl
      · exact ih h hMem
    next => cases h

/-- Behind modules that exist, the first one that is missing decides; the one before it is named if
it can hold no modules. -/
theorem importChain_of_missing {before : Option String} {names rest : List String}
    {last missing : String} {m : Module} (h : world.importChain before names = .ok ())
    (hLast : names.getLast? = some last) (hModule : world.module? last = some m)
    (hMissing : world.module? missing = none) :
    world.importChain before (names ++ missing :: rest)
      = .error (.moduleNotFound missing (if m.isPackage then none else some last)) := by
  induction names generalizing before with
  | nil => cases hLast
  | cons name names ih =>
    rw [importChain] at h
    rw [List.cons_append, importChain]
    split at h
    next m' hName =>
      cases names with
      | nil =>
        obtain rfl : name = last := Option.some.inj hLast
        rw [List.nil_append, importChain, hMissing]
        cases hPackage : m.isPackage <;> simp [hModule, hPackage, Option.filter]
      | cons second names =>
        rw [List.getLast?_cons_cons] at hLast
        exact ih h hLast
    next => cases h

/-- A module of that name in a module that exists is missing. -/
theorem importModule_of_missing {module inside first : String}
    (h : world.importModule module = .ok ()) (hFirst : first ∈ (Text.dottedParts inside).head?)
    (hMissing : world.module? (module ++ "." ++ first) = none) :
    ∃ m, world.module? module = some m ∧
      world.importModule (module ++ "." ++ inside) = .error
        (.moduleNotFound (module ++ "." ++ first) (if m.isPackage then none else some module)) := by
  obtain ⟨hAbsolute, hChain⟩ := importChain_of_importModule h
  have hLast := Text.getLast?_dottedPrefixes (Text.dottedParts_ne_nil module)
  rw [Text.intercalate_dottedParts] at hLast
  obtain ⟨m, hModule⟩ := Option.isSome_iff_exists.1
    (isSome_module?_of_importChain hChain (List.mem_of_getLast? hLast))
  refine ⟨m, hModule, ?_⟩
  have hSome := ne_empty_of_importModule h
  have hHead : (module ++ "." ++ inside).toList.head? = module.toList.head? := by
    cases hChars : module.toList with
    | nil => exact absurd (String.toList_eq_nil_iff.1 hChars) hSome
    | cons => simp [hChars]
  obtain ⟨parts, hParts⟩ := List.head?_eq_some_iff.1 hFirst
  rw [importModule_eq (by simp) (hHead ▸ hAbsolute), Text.dottedParts_append,
    Text.dottedPrefixes_append (Text.dottedParts_ne_nil module), Text.intercalate_dottedParts,
    hParts, Text.dottedPrefixes, List.map_cons]
  exact importChain_of_missing hChain hLast hModule hMissing

/-! ## What a text is resolved to -/

theorem asClass?_eq_some_iff {object : Object} :
    object.asClass? = some c ↔ object = .value (.cls c) := by
  constructor
  · intro h
    unfold Object.asClass? at h
    split at h
    · cases h
      rfl
    · cases h
  · rintro rfl
    rfl

theorem resolveTarget_eq_ok_iff {text module qualname : String}
    (hSplit : splitTarget text = (module, qualname)) :
    world.resolveTarget text = .ok c ↔ world.Holds module qualname c := by
  rw [resolveTarget, hSplit]
  dsimp only
  constructor
  · intro h
    split at h
    next => cases h
    next hNames =>
      obtain ⟨⟨⟩, hImport, h⟩ := Sequence.bind_eq_ok_iff.1 h
      refine ⟨fun hEmpty => hNames (.inr hEmpty), hImport, ?_⟩
      split at h
      next => cases h
      next found hFollow =>
        split at h
        next c' hClass =>
          cases h
          exact ⟨found.place, by rw [hFollow, ← asClass?_eq_some_iff.1 hClass]⟩
        next => cases h
  · rintro ⟨hName, hImport, place, hFollow⟩
    have hNames : ¬ (module = "" ∨ qualname = "") := by
      simp [ne_empty_of_importModule hImport, hName]
    rw [if_neg hNames, hImport]
    dsimp only [bind, Except.bind]
    rw [hFollow]
    rfl

theorem resolveTarget_of_importModule {text module qualname : String} {failure : Failure}
    (hSplit : splitTarget text = (module, qualname)) (hModule : module ≠ "")
    (hName : qualname ≠ "") (h : world.importModule module = .error failure) :
    world.resolveTarget text = .error failure := by
  rw [resolveTarget, hSplit]
  dsimp only
  rw [if_neg (by simp [hModule, hName]), h]
  rfl

theorem fullName_of_introspect {target : Target} (h : world.introspect c = .ok target) :
    target.fullName = c.fullName := by
  obtain ⟨methods, -, ⟨⟩⟩ := Sequence.bind_eq_ok_iff.1 h
  rfl

end World

/-- A class that its module holds under its qualified name is what the two name with a colon
between them, and what its full name names if no class holds it. The full name of a nested class
names it only if a module that is called like the class around it holds it too, and where there is
no such module, that module is reported to be missing. -/
theorem class_resolved_by_name (world : World) (c : ClassRef)
    (hHeld : world.Holds c.module c.qualname c) (hModule : ':' ∉ c.module.toList) :
    world.resolveTarget (c.module ++ ":" ++ c.qualname) = .ok c ∧
      (∀ target, world.introspect c = .ok target → target.fullName = c.fullName) ∧
      (':' ∉ c.qualname.toList →
        ('.' ∉ c.qualname.toList → world.resolveTarget c.fullName = .ok c) ∧
        ∀ outer inner, c.qualname = outer ++ "." ++ inner → '.' ∉ inner.toList →
          (world.resolveTarget c.fullName = .ok c
            ↔ world.Holds (c.module ++ "." ++ outer) inner c) ∧
          (inner ≠ "" → ∀ first ∈ (Text.dottedParts outer).head?,
            world.module? (c.module ++ "." ++ first) = none →
              ∃ m, world.module? c.module = some m ∧
                world.resolveTarget c.fullName = .error (.moduleNotFound
                  (c.module ++ "." ++ first) (if m.isPackage then none else some c.module)))) := by
  refine ⟨(World.resolveTarget_eq_ok_iff (splitTarget_colon hModule)).2 hHeld,
    fun target => World.fullName_of_introspect, fun hColon => ⟨?_, ?_⟩⟩
  · intro hPoint
    exact (World.resolveTarget_eq_ok_iff (splitTarget_point hModule hColon hPoint)).2 hHeld
  · intro outer inner hNested hInner
    have hParts : ':' ∉ (c.module ++ "." ++ outer).toList ∧ ':' ∉ inner.toList := by
      rw [hNested] at hColon
      simp_all
    have hText : c.fullName = c.module ++ "." ++ outer ++ "." ++ inner := by
      rw [ClassRef.fullName, hNested]
      simp only [String.append_assoc]
    have hSplit : splitTarget c.fullName = (c.module ++ "." ++ outer, inner) := by
      rw [hText]
      exact splitTarget_point hParts.1 hParts.2 hInner
    refine ⟨World.resolveTarget_eq_ok_iff hSplit, fun hName first hFirst hMissing => ?_⟩
    obtain ⟨m, hHolder, hFails⟩ := World.importModule_of_missing hHeld.imported hFirst hMissing
    exact ⟨m, hHolder, World.resolveTarget_of_importModule hSplit (by simp) hName hFails⟩

namespace TargetName.Sample

def shelf : ClassRef := ⟨"store.books", "Shelf", 1, false⟩

def entry : ClassRef := ⟨"store.books", "Shelf.Entry", 2, false⟩

def box : ClassRef := ⟨"crate", "Box", 3, false⟩

def lid : ClassRef := ⟨"crate", "Box.Lid", 4, false⟩

def cover : ClassRef := ⟨"crate.Box", "Cover", 5, false⟩

/-- Two nested classes; a module is called like the class around the second one. -/
def world : World where
  modules := [⟨"store", false, []⟩, ⟨"store.books", false, [("Shelf", .cls shelf)]⟩,
    ⟨"crate", false, [("Box", .cls box)]⟩, ⟨"crate.Box", false, [("Lid", .cls cover)]⟩]
  classes := [
    { ref := shelf, name := "Shelf", bases := [.objectClass], resolution := [shelf, .objectClass]
      attributes := [("Entry", .plain (.cls entry))] },
    { ref := box, name := "Box", bases := [.objectClass], resolution := [box, .objectClass]
      attributes := [("Lid", .plain (.cls lid))] }]
  memory := []

theorem holds_entry : world.Holds "store.books" "Shelf.Entry" entry :=
  ⟨by decide, rfl, _, rfl⟩

end TargetName.Sample

open TargetName.Sample in
theorem class_resolved_by_name_of_nested :
    world.Holds "store.books" "Shelf.Entry" entry ∧
      world.resolveTarget "store.books:Shelf.Entry" = .ok entry ∧
      world.resolveTarget "store.books.Shelf.Entry"
        = .error (.moduleNotFound "store.books.Shelf" (some "store.books")) := by
  obtain ⟨hColon, -, hPoints⟩ := class_resolved_by_name world entry holds_entry (by decide)
  obtain ⟨m, hModule, hMissing⟩ :=
    (((hPoints (by decide)).2 "Shelf" "Entry" rfl (by decide)).2 (by decide)) "Shelf" rfl rfl
  cases hModule
  exact ⟨holds_entry, hColon, hMissing⟩

open TargetName.Sample in
/-- The full name of a nested class is not resolved, or it is resolved to a class of the module
that is called like the class around it. -/
theorem class_not_resolved_by_name :
    world.Holds entry.module entry.qualname entry ∧ world.Holds lid.module lid.qualname lid ∧
      world.resolveTarget "store.books:Shelf.Entry" = .ok entry ∧
      world.resolveTarget entry.fullName
        = .error (.moduleNotFound "store.books.Shelf" (some "store.books")) ∧
      world.resolveTarget "crate:Box.Lid" = .ok lid ∧
      world.resolveTarget lid.fullName = .ok cover ∧ cover ≠ lid :=
  ⟨holds_entry, ⟨by decide, rfl, _, rfl⟩, rfl, rfl, rfl, rfl, by decide⟩

end Interpose

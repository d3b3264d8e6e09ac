import Interpose.Proofs.Loading.Deed
import Interpose.Proofs.Rendering.Imports
import Interpose.Proofs.Rendering.LookUp

/-! # What loaded modules matter to

What a load does depends on the modules that have been loaded only where a module that it asks for
has the name of one of them, or a name that goes on from it. A class, and a generated module, refer
to no module of a generator if none of their modules stands under its namespace.
-/
namespace Interpose

set_option autoImplicit false

/-! ## Asking for modules -/

theorem Text.prefix_of_mem_dottedPrefixes {parts : List String} {name : String}
    (h : name ∈ dottedPrefixes parts) : name.toList <+: (".".intercalate parts).toList := by
  induction parts generalizing name with
  | nil => cases h
  | cons part parts ih =>
    by_cases hLast : parts = []
    · subst hLast
      rw [List.mem_singleton.1 h, String.intercalate_singleton]
    · rw [String.intercalate_cons_of_ne_nil hLast, String.toList_append, String.toList_append,
        List.append_assoc]
      rcases List.mem_cons.1 h with rfl | hLater
      · exact List.prefix_append _ _
      · obtain ⟨rest, hRest, rfl⟩ := List.mem_map.1 hLater
        rw [String.toList_append, String.toList_append, List.append_assoc]
        exact (List.prefix_append_right_inj _).2 ((List.prefix_append_right_inj _).2 (ih hRest))

namespace LoadedWorld

/-- In the same world, the same modules have been loaded, up to one of some name. -/
structure SameBut (name : String) (w w' : LoadedWorld) : Prop where
  world : w.world = w'.world
  loaded : ∀ other, other ≠ name → w.loaded.lookup other = w'.loaded.lookup other

variable {w w' : LoadedWorld} {name module : String}

theorem SameBut.cons (h : SameBut name w w') (entry : String × List (String × Value)) :
    SameBut name ⟨w.world, entry :: w.loaded⟩ ⟨w'.world, entry :: w'.loaded⟩ where
  world := h.world
  loaded other hOther := by rw [List.lookup_cons, List.lookup_cons, h.loaded other hOther]

theorem lastLoaded?_congr (h : SameBut name w w') {names : List String} (hApart : name ∉ names) :
    w.lastLoaded? names = w'.lastLoaded? names := by
  induction names with
  | nil => rfl
  | cons first names ih =>
    obtain ⟨hFirst, hNames⟩ := List.ne_and_not_mem_of_not_mem_cons hApart
    rw [lastLoaded?, lastLoaded?, ih hNames, h.loaded first (Ne.symm hFirst)]

theorem importModule_congr (h : SameBut name w w') (hApart : ¬ name.toList <+: module.toList) :
    w.importModule module = w'.importModule module := by
  have hNames : name ∉ Text.dottedPrefixes (Text.dottedParts module) := by
    intro hMem
    have hPrefix := Text.prefix_of_mem_dottedPrefixes hMem
    rw [Text.intercalate_dottedParts] at hPrefix
    exact hApart hPrefix
  simp only [importModule, lastLoaded?_congr h hNames, h.world]

theorem prefix_head_dottedParts (module : String) :
    ((Text.dottedParts module).headD "").toList <+: module.toList := by
  cases hParts : Text.dottedParts module with
  | nil => exact List.nil_prefix
  | cons head parts =>
    have hMem : head ∈ Text.dottedPrefixes (Text.dottedParts module) := by
      rw [hParts]
      exact List.mem_cons_self
    have hPrefix := Text.prefix_of_mem_dottedPrefixes hMem
    rwa [Text.intercalate_dottedParts] at hPrefix

theorem bindModule_congr (h : SameBut name w w') (hApart : ¬ name.toList <+: module.toList) :
    w.bindModule module = w'.bindModule module := by
  have hHead : ¬ name.toList <+: ((Text.dottedParts module).headD "").toList :=
    fun hPrefix => hApart (hPrefix.trans (prefix_head_dottedParts module))
  rw [bindModule, bindModule, importModule_congr h hApart, importModule_congr h hHead]

theorem typeExists_congr (h : SameBut name w w') (hApart : ¬ name.toList <+: module.toList)
    (qualname : String) :
    w.typeExists (some module) qualname = w'.typeExists (some module) qualname := by
  have hOther : module ≠ name := by
    rintro rfl
    exact hApart List.prefix_rfl
  simp only [typeExists, importModule_congr h hApart, follow, h.loaded module hOther, h.world]

end LoadedWorld

/-! ## Rendering and running -/

section Loads

open LoadedWorld (SameBut)

variable {w w' : LoadedWorld} {name className : String} {target : Target}

theorem forM_congr {m : Type → Type} [Monad m] {α : Type} {f g : α → m PUnit} {as : List α}
    (h : ∀ a ∈ as, f a = g a) : forM as f = forM as g := by
  induction as with
  | nil => rfl
  | cons a as ih =>
    rw [List.forM_cons, List.forM_cons, h a List.mem_cons_self,
      ih fun b hMem => h b (List.mem_cons_of_mem a hMem)]

theorem check_congr (h : SameBut name w w') {site : HintSite} {t : NamedType}
    (hApart : ∀ resolved module, site.resolve t = .ok resolved → t.name ≠ "static" →
      resolved.isBuiltin = false → resolved.module = some module →
      ¬ name.toList <+: module.toList) :
    Hint.check w site t = Hint.check w' site t := by
  have hName : Hint.nameOf w site t = Hint.nameOf w' site t := by
    rw [Hint.nameOf_eq, Hint.nameOf_eq]
    cases hResolve : site.resolve t with
    | error failure => simp only [bind, Except.bind]
    | ok resolved =>
      by_cases hStatic : t.name = "static"
      · simp only [if_pos hStatic, bind, Except.bind]
      · cases hBuiltin : resolved.isBuiltin with
        | true => simp only [if_true, hBuiltin, bind, Except.bind]
        | false =>
          have hExists : NameSource.typeExists w resolved.module resolved.name
              = NameSource.typeExists w' resolved.module resolved.name := by
            cases hModule : resolved.module with
            | none => rfl
            | some module =>
              exact LoadedWorld.typeExists_congr h
                (hApart resolved module hResolve hStatic hBuiltin hModule) _
          simp only [bind, Except.bind, hExists]
  rw [Hint.check, Hint.check, hName]

/-- Rendering asks for modules that the target uses, and for no others. -/
theorem classSource_congr (h : SameBut name w w')
    (hApart : ∀ module, target.Uses module → ¬ name.toList <+: module.toList) :
    ClassSource.of w target className = ClassSource.of w' target className := by
  have hChecks : checkAll w target.hints = checkAll w' target.hints :=
    forM_congr fun name hName => check_congr h fun _ _ hResolve hStatic hBuiltin hModule =>
      hApart _ (.hint hName hResolve hStatic hBuiltin hModule)
  have hSource := factors_classSource w target className
  have hSource' := factors_classSource w' target className
  rw [Factors] at hSource hSource'
  rw [hSource, hSource', hChecks]

theorem classSource_of_nil (world : World) (target : Target) (className : String) :
    ClassSource.of (⟨world, []⟩ : LoadedWorld) target className
      = ClassSource.of world target className := by
  have hExists (module : Option String) (qualname : String) :
      NameSource.typeExists (⟨world, []⟩ : LoadedWorld) module qualname
        = NameSource.typeExists world module qualname :=
    LoadedWorld.typeExists_of_nil world module qualname
  have hChecks : checkAll (⟨world, []⟩ : LoadedWorld) target.hints
      = checkAll world target.hints := by
    simp only [checkAll, Hint.check, Hint.nameOf_eq, hExists]
  have hSource := factors_classSource (⟨world, []⟩ : LoadedWorld) target className
  have hSource' := factors_classSource world target className
  rw [Factors] at hSource hSource'
  rw [hSource, hSource', hChecks]

/-- Where a target uses none of the modules that have been loaded, its source is that of the world
on its own. -/
theorem classSource_of_apart (world : World) {loaded : List (String × List (String × Value))}
    (hApart : ∀ entry ∈ loaded, ∀ module, target.Uses module →
      ¬ entry.1.toList <+: module.toList) :
    ClassSource.of (⟨world, loaded⟩ : LoadedWorld) target className
      = ClassSource.of world target className := by
  induction loaded with
  | nil => exact classSource_of_nil world target className
  | cons entry loaded ih =>
    obtain ⟨hFirst, hOthers⟩ := List.forall_mem_cons.1 hApart
    have hSame : SameBut entry.1 ⟨world, entry :: loaded⟩ ⟨world, loaded⟩ := by
      refine ⟨rfl, fun other hOther => ?_⟩
      rw [List.lookup_cons, beq_eq_false_iff_ne.2 hOther]
    rw [classSource_congr hSame hFirst, ih hOthers]

theorem run_congr (h : SameBut name w w') {source : ClassSource}
    (hApart : ∀ module ∈ source.importedNames, ¬ name.toList <+: module.toList)
    (moduleName : String) (serial : Nat) :
    source.run w moduleName serial = source.run w' moduleName serial := by
  have hImports : source.importedNames.forM w.bindModule
      = source.importedNames.forM w'.bindModule :=
    forM_congr fun module hMem => LoadedWorld.bindModule_congr h (hApart module hMem)
  simp only [ClassSource.run, hImports, h.world]

end Loads

/-! ## Modules under a namespace -/

/-- Whether the source that is generated for a class imports a module: one that the target of the
class uses, under its name or under the normal form of it, which is the one that is imported. -/
def World.RefersTo (world : World) (c : ClassRef) (module : String) : Prop :=
  ∃ target used, world.introspect c = .ok target ∧ target.Uses used ∧
    (module = used ∨ module = Text.normalForm used)

namespace Generator

variable {g : Generator} {w w' : LoadedWorld} {world : World} {c d : ClassRef} {p : Workspace}
  {module name : String}

/-- Whether the name of a module stands under the namespace of a generator. -/
def Owns (g : Generator) (module : String) : Prop :=
  (g.namespaceName ++ ".").toList <+: module.toList

theorem not_prefix_of_not_owns (h : ¬ g.Owns module) :
    ¬ (g.classNameFor c).toList <+: module.toList := by
  intro hPrefix
  rw [classNameFor, String.toList_append] at hPrefix
  exact h ((List.prefix_append _ _).trans hPrefix)

/-- Neither a class nor the module that is stored in its file refers to a module under the namespace
of a generator. -/
structure IsApart (g : Generator) (world : World) (s : Storage FileContent) (c : ClassRef) :
    Prop where
  target : ∀ module, world.RefersTo c module → ¬ g.Owns module
  stored : ∀ source, s.read (g.fileFor c) = .ok (.generated source) →
    ∀ module ∈ source.importedNames, ¬ g.Owns module

theorem sourceFor_congr (h : LoadedWorld.SameBut (g.classNameFor c) w w')
    (hApart : ∀ module, w.world.RefersTo d module → ¬ g.Owns module) (fullName : String) :
    sourceFor w (.cls d) fullName = sourceFor w' (.cls d) fullName := by
  rw [sourceFor, sourceFor, ← h.world]
  cases hTarget : w.world.introspect d with
  | error failure => simp only [TargetRef.resolve, hTarget, bind, Except.bind]
  | ok target =>
    have hSource : ClassSource.of w target (lastPart fullName)
        = ClassSource.of w' target (lastPart fullName) :=
      classSource_congr h fun module hUses =>
        not_prefix_of_not_owns (hApart module ⟨target, module, hTarget, hUses, .inl rfl⟩)
    simp only [TargetRef.resolve, hTarget, bind, Except.bind, hSource]

/-- The modules that a generated source imports are those that its class refers to. -/
theorem refersTo_of_sourceFor {fullName : String} {source : ClassSource}
    (h : sourceFor w (.cls d) fullName = .ok source) {module : String}
    (hMem : module ∈ source.importedNames) : w.world.RefersTo d module := by
  obtain ⟨_, ⟨⟩, h⟩ := Sequence.bind_eq_ok_iff.1 h
  obtain ⟨target, hTarget, hSource⟩ := Sequence.bind_eq_ok_iff.1 h
  obtain ⟨used, hUsed, rfl⟩ := List.mem_map.1 hMem
  rw [(factors_classSource w target _).eq_of_eq_ok hSource, Target.mem_imports_iff_uses] at hUsed
  exact ⟨target, used, hTarget, hUsed, .inr rfl⟩

theorem ofContent_congr (h : LoadedWorld.SameBut (g.classNameFor c) w w') {content : FileContent}
    (hApart : ∀ source, content = .generated source →
      ∀ module ∈ source.importedNames, ¬ g.Owns module) :
    Running.ofContent w name content = Running.ofContent w' name content := by
  cases content with
  | generated source =>
    rw [Running.ofContent, Running.ofContent, run_congr h fun module hMem =>
      not_prefix_of_not_owns (hApart source rfl module hMem)]
  | emptyClass _ | assignment _ | malformed | failing _ | plain _ _ => rfl

end Generator

end Interpose

import Interpose.Proofs.Loading.StorageFrame

/-! # One class for a name

A program asks its generators for classes again and again, and some of the requests fail. As long as
every module that runs to its end binds its class, and no one else touches the modules and the
registries, a name stands for one class: what a registry holds under it is what its module binds, it
is never replaced, and the module has run once. So all loads of a name return the same class,
whatever the generators and policies they go through.
-/
namespace Interpose

set_option autoImplicit false

open Stateful

/-- What a program asks of its generators. Whatever else happens in between can change the storage
and what its device lets happen. -/
inductive Request where
  | load (g : Generator) (world : World) (target : TargetRef) (policy : Value)
  | generate (g : Generator) (world : World) (target : TargetRef) (directory : String)
  | elsewhere (storage : Storage FileContent) (device : Device FileContent)

namespace Workspace

def serve (p : Workspace) : Request → Workspace
  | .load g world target policy => (outcome (g.load world target policy) p).2
  | .generate g world target directory => (outcome (g.generateIn world target directory) p).2
  | .elsewhere storage device => { p with storage, device }

def after (p : Workspace) (history : List Request) : Workspace :=
  history.foldl serve p

def BindsClass (name : String) (bindings : List (String × Value)) : Prop :=
  ∃ c, bindings.lookup (lastPart name) = some (.cls c)

/-- Every module that runs to its end while some requests are served binds its class. -/
def RunsBindClasses : Workspace → List Request → Prop
  | _, [] => True
  | p, request :: history =>
    (∀ name bindings, (p.serve request).modules = (name, bindings) :: p.modules →
      BindsClass name bindings) ∧ RunsBindClasses (p.serve request) history

/-- The registries agree with the modules, and every module that has been run since the start has a
name of its own. -/
structure Agreed (start p : Workspace) : Prop where
  bound : ∀ {id name v}, p.registered? id name = some v → ∃ c bindings, v = .cls c ∧
    p.modules.lookup name = some bindings ∧ bindings.lookup (lastPart name) = some (.cls c)
  once : ∃ executed, p.modules = executed ++ start.modules ∧ (executed.map Prod.fst).Nodup ∧
    ∀ m ∈ executed, start.modules.lookup m.1 = none

structure Keeps (p p' : Workspace) : Prop where
  registered : ∀ id name v, p.registered? id name = some v → p'.registered? id name = some v
  modules : p.modules <:+ p'.modules

variable {start p p' p'' : Workspace} {id name : String} {v : Value}
  {bindings : List (String × Value)}

theorem Keeps.trans (h : p.Keeps p') (h' : p'.Keeps p'') : p.Keeps p'' where
  registered id name v hRegistered := h'.registered id name v (h.registered id name v hRegistered)
  modules := h.modules.trans h'.modules

theorem Agreed.same {id' : String} {v' : Value} (h : start.Agreed p)
    (hHere : p.registered? id name = some v) (hThere : p.registered? id' name = some v') :
    v = v' := by
  obtain ⟨c, bindings, rfl, hModule, hClass⟩ := h.bound hHere
  obtain ⟨c', bindings', rfl, hModule', hClass'⟩ := h.bound hThere
  obtain rfl := Option.some.inj (hModule.symm.trans hModule')
  exact Option.some.inj (hClass.symm.trans hClass')

/-! ## The ways in which a workspace changes -/

theorem Keeps.of_eq (hModules : p'.modules = p.modules)
    (hRegistries : p'.registries = p.registries) : p.Keeps p' where
  registered id name v hRegistered := by
    rwa [registered?, registry, hRegistries]
  modules := hModules ▸ List.suffix_rfl

theorem Agreed.of_eq (h : start.Agreed p) (hModules : p'.modules = p.modules)
    (hRegistries : p'.registries = p.registries) : start.Agreed p' where
  bound hRegistered := by
    rw [registered?, registry, hRegistries] at hRegistered
    rw [hModules]
    exact h.bound hRegistered
  once := hModules ▸ h.once

theorem keeps_enter (p : Workspace) (id name : String) (v : Value) :
    p.Keeps (p.enter id name v) where
  registered id' name' v' hRegistered := by
    by_cases hSame : id' = id ∧ name' = name
    · obtain ⟨rfl, rfl⟩ := hSame
      rw [registered?_enter_self, hRegistered, Option.getD_some]
    · rw [registered?_enter_of_ne (not_and_or.mp hSame), hRegistered]
  modules := List.suffix_rfl

theorem Agreed.enter {c : ClassRef} (h : start.Agreed p)
    (hModule : p.modules.lookup name = some bindings)
    (hClass : bindings.lookup (lastPart name) = some (.cls c)) :
    start.Agreed (p.enter id name (.cls c)) where
  bound := by
    intro id' name' v' hRegistered
    by_cases hSame : id' = id ∧ name' = name
    · obtain ⟨rfl, rfl⟩ := hSame
      rw [registered?_enter_self] at hRegistered
      cases hBefore : p.registered? id' name' with
      | none =>
        rw [hBefore] at hRegistered
        cases hRegistered
        exact ⟨c, bindings, rfl, hModule, hClass⟩
      | some _ =>
        rw [hBefore] at hRegistered
        cases hRegistered
        exact h.bound hBefore
    · rw [registered?_enter_of_ne (not_and_or.mp hSame)] at hRegistered
      exact h.bound hRegistered
  once := h.once

/-- Where nothing without a value is registered, a name is free only if no module has it. -/
theorem Agreed.lookup_of_isFree (h : start.Agreed p) (hFree : p.IsFree id name) :
    p.modules.lookup name = none := by
  obtain hNone | ⟨-, hModule⟩ := hFree
  · obtain ⟨_, _, ⟨⟩, -⟩ := h.bound hNone
  · exact hModule

theorem keeps_run (p : Workspace) (name : String) (bindings : List (String × Value))
    (storage : Storage FileContent) (classes : List DecoratedClass) (next : Nat) :
    p.Keeps { p with storage, modules := (name, bindings) :: p.modules, classes, next } where
  registered _ _ _ hRegistered := hRegistered
  modules := List.suffix_cons _ _

theorem Agreed.run (h : start.Agreed p) (hName : p.modules.lookup name = none)
    (storage : Storage FileContent) (classes : List DecoratedClass) (next : Nat) :
    start.Agreed
      { p with storage, modules := (name, bindings) :: p.modules, classes, next } where
  bound := by
    intro id' name' v' hRegistered
    obtain ⟨c, bound, hClass, hModule, hBound⟩ := h.bound hRegistered
    refine ⟨c, bound, hClass, ?_, hBound⟩
    have hOther : (name' == name) = false := by
      rw [beq_eq_false_iff_ne]
      rintro rfl
      rw [hName] at hModule
      cases hModule
    rw [List.lookup_cons, hOther]
    exact hModule
  once := by
    obtain ⟨executed, hModules, hNodup, hNew⟩ := h.once
    rw [hModules, List.lookup_append, Option.or_eq_none_iff] at hName
    refine ⟨(name, bindings) :: executed, by rw [hModules, List.cons_append], ?_, ?_⟩
    · refine List.nodup_cons.mpr ⟨fun hMember => ?_, hNodup⟩
      obtain ⟨m, hm, hSame⟩ := List.mem_map.mp hMember
      have hOther := List.lookup_eq_none_iff.mp hName.1 m hm
      exact bne_iff_ne.mp hOther hSame.symm
    · intro m hm
      rcases List.mem_cons.mp hm with rfl | hm
      · exact hName.2
      · exact hNew m hm

/-! ## One request -/

variable {g : Generator} {world : World} {target : TargetRef} {policy : Value}

theorem Agreed.loads {r : Except Failure String} (h : start.Agreed p)
    (hLoads : g.Loads world target policy p r p')
    (hBinds : ∀ name bindings, p'.modules = (name, bindings) :: p.modules →
      BindsClass name bindings) : start.Agreed p' ∧ p.Keeps p' := by
  cases hLoads with
  | refused _ => exact ⟨h, .of_eq rfl rfl⟩
  | registered _ _ _ => exact ⟨h, .of_eq rfl rfl⟩
  | adopted _ _ hModule hClass => exact ⟨h.enter hModule hClass, keeps_enter ..⟩
  | ungenerated _ _ _ _ _ => exact ⟨h.of_eq rfl rfl, .of_eq rfl rfl⟩
  | ran _ hFree _ _ hRan =>
    have hName := h.lookup_of_isFree hFree
    cases hRan with
    | failed _ =>
      have hModules := Entries.erase_eq_self hName
      exact ⟨h.of_eq hModules rfl, .of_eq hModules rfl⟩
    | unbound _ _ hClass =>
      -- A module that has run binds its class, by assumption.
      obtain ⟨c, hBound⟩ := hBinds _ _ rfl
      rw [hClass] at hBound
      cases hBound
    | bound classes next hClass =>
      obtain ⟨c, hBound⟩ := hBinds _ _ rfl
      obtain rfl := Option.some.inj (hClass.symm.trans hBound)
      exact ⟨(h.run hName _ classes next).enter List.lookup_cons_self hBound,
        (keeps_run ..).trans (keeps_enter ..)⟩

theorem Agreed.serve {request : Request} (h : start.Agreed p)
    (hBinds : ∀ name bindings, (p.serve request).modules = (name, bindings) :: p.modules →
      BindsClass name bindings) : start.Agreed (p.serve request) ∧ p.Keeps (p.serve request) := by
  cases request with
  | load g world target policy => exact h.loads (Generator.load_cases rfl) hBinds
  | generate g world target directory =>
    have hLeft := g.generateIn_left world target directory p
    have hModules := congrArg Workspace.modules hLeft
    have hRegistries := congrArg Workspace.registries hLeft
    exact ⟨h.of_eq hModules hRegistries, .of_eq hModules hRegistries⟩
  | elsewhere storage device => exact ⟨h.of_eq rfl rfl, .of_eq rfl rfl⟩

/-! ## Any number of requests -/

theorem Agreed.after {history : List Request} (h : start.Agreed p)
    (hBinds : p.RunsBindClasses history) :
    start.Agreed (p.after history) ∧ p.Keeps (p.after history) := by
  induction history generalizing p with
  | nil => exact ⟨h, .of_eq rfl rfl⟩
  | cons request history ih =>
    obtain ⟨hAgreed, hKeeps⟩ := h.serve hBinds.1
    obtain ⟨hEnd, hRest⟩ := ih hAgreed hBinds.2
    exact ⟨hEnd, hKeeps.trans hRest⟩

theorem agreed_start (hEmpty : ∀ id, start.registry id = []) : start.Agreed start where
  bound {id name v} hRegistered := by
    rw [registered?, hEmpty id] at hRegistered
    cases hRegistered
  once := ⟨[], rfl, List.nodup_nil, by simp⟩

theorem after_append (p : Workspace) (past rest : List Request) :
    p.after (past ++ rest) = (p.after past).after rest :=
  List.foldl_append

theorem runsBindClasses_append {past rest : List Request} :
    p.RunsBindClasses (past ++ rest) ↔
      p.RunsBindClasses past ∧ (p.after past).RunsBindClasses rest := by
  induction past generalizing p with
  | nil => simp [RunsBindClasses, after]
  | cons request past ih =>
    rw [List.cons_append, RunsBindClasses, RunsBindClasses, ih, and_assoc]
    rfl

end Workspace

namespace Generator

variable {g : Generator} {world : World} {target : TargetRef} {policy : Value}
  {p p' : Workspace} {name : String}

theorem Loads.registered_of_ok (h : g.Loads world target policy p (.ok name) p') :
    ∃ v, p'.registered? g.registry name = some v := by
  generalize hResult : (Except.ok name : Except Failure String) = r at h
  cases h with
  | refused _ => cases hResult
  | registered _ _ hRegistered =>
    cases hResult
    exact ⟨_, hRegistered⟩
  | adopted _ _ _ _ =>
    cases hResult
    exact ⟨_, Workspace.registered?_enter_self ..⟩
  | ungenerated _ _ _ _ _ => cases hResult
  | ran _ _ _ _ hRan =>
    cases hRan with
    | failed _ => cases hResult
    | unbound _ _ _ => cases hResult
    | bound _ _ _ =>
      cases hResult
      exact ⟨_, Workspace.registered?_enter_self ..⟩

theorem outcome_getClass {v : Value} (h : p.registered? g.registry name = some v) :
    outcome (g.getClass name) p = (.ok v, p) := by
  rw [getClass, Workspace.registered, outcome_get_bind, h]
  rfl

theorem loadClass_of_load
    (hOk : (outcome (g.load world target policy) p).1 = .ok name) :
    ∃ v, (outcome (g.loadClass world target policy) p).1 = .ok v ∧
      (p.serve (.load g world target policy)).registered? g.registry name = some v := by
  have hLoad : outcome (g.load world target policy) p
      = (.ok name, p.serve (.load g world target policy)) := Prod.ext hOk rfl
  obtain ⟨v, hRegistered⟩ := (load_cases hLoad).registered_of_ok
  refine ⟨v, ?_, hRegistered⟩
  rw [loadClass, outcome_bind, hLoad]
  dsimp only
  rw [outcome_getClass hRegistered]

end Generator

/-- Over every run of requests whose modules bind their classes: a registry holds under a name what
the module of the name binds, so that registries agree; what is registered stays; every module has
run once; generating a class touches neither registries nor modules; and all loads of a name return
one class, which the registry holds from then on. -/
theorem one_class_per_name {start : Workspace} {history : List Request}
    (hEmpty : ∀ id, start.registry id = []) (hBinds : start.RunsBindClasses history) :
    let p := start.after history
    (∀ id name v, p.registered? id name = some v → ∃ c bindings, v = .cls c ∧
      p.modules.lookup name = some bindings ∧ bindings.lookup (lastPart name) = some (.cls c)) ∧
    (∀ id id' name v v', p.registered? id name = some v → p.registered? id' name = some v' →
      v = v') ∧
    (∀ past, past <+: history → ∀ id name v,
      (start.after past).registered? id name = some v → p.registered? id name = some v) ∧
    (∃ executed, p.modules = executed ++ start.modules ∧ (executed.map Prod.fst).Nodup ∧
      ∀ m ∈ executed, start.modules.lookup m.1 = none) ∧
    (∀ past, past <+: history → (start.after past).modules <:+ p.modules) ∧
    (∀ (g : Generator) (world : World) (target : TargetRef) (directory : String),
      let left := (outcome (g.generateIn world target directory) p).2
      left.modules = p.modules ∧ left.registries = p.registries) ∧
    ∀ (g g' : Generator) (world world' : World) (target target' : TargetRef)
      (policy policy' : Value) (past past' : List Request) (name : String),
      past ++ [.load g world target policy] <+: history →
      past' ++ [.load g' world' target' policy'] <+: history →
      (outcome (g.load world target policy) (start.after past)).1 = .ok name →
      (outcome (g'.load world' target' policy') (start.after past')).1 = .ok name →
      ∃ c,
        (outcome (g.loadClass world target policy) (start.after past)).1 = .ok (.cls c) ∧
        (outcome (g'.loadClass world' target' policy') (start.after past')).1 = .ok (.cls c) ∧
        (outcome (g.getClass name) p).1 = .ok (.cls c) ∧
        (outcome (g'.getClass name) p).1 = .ok (.cls c) := by
  intro p
  have hStart := Workspace.agreed_start hEmpty
  have hEnd : start.Agreed p := (hStart.after hBinds).1
  have hKeeps : ∀ past, past <+: history → (start.after past).Keeps p := by
    rintro past ⟨rest, rfl⟩
    obtain ⟨hPast, hRest⟩ := Workspace.runsBindClasses_append.mp hBinds
    have hThen := ((hStart.after hPast).1.after hRest).2
    rwa [← Workspace.after_append] at hThen
  -- What is registered right after a load is registered in the end.
  have hHeld : ∀ {g : Generator} {world target policy past name v},
      past ++ [.load g world target policy] <+: history →
      ((start.after past).serve (.load g world target policy)).registered? g.registry name
        = some v →
      p.registered? g.registry name = some v := by
    intro g world target policy past name v hPrefix hRegistered
    have hKept := (hKeeps _ hPrefix).registered g.registry name v
    rw [Workspace.after_append] at hKept
    exact hKept hRegistered
  refine ⟨fun id name v => hEnd.bound, fun id id' name v v' => hEnd.same,
    fun past hPrefix => (hKeeps past hPrefix).registered, hEnd.once,
    fun past hPrefix => (hKeeps past hPrefix).modules, ?_, ?_⟩
  · intro g world target directory
    have hLeft := g.generateIn_left world target directory p
    constructor
    · rw [hLeft]
    · rw [hLeft]
  · intro g g' world world' target target' policy policy' past past' name hPrefix hPrefix' hOk hOk'
    obtain ⟨v, hLoaded, hRegistered⟩ := Generator.loadClass_of_load hOk
    obtain ⟨v', hLoaded', hRegistered'⟩ := Generator.loadClass_of_load hOk'
    have hHere := hHeld hPrefix hRegistered
    have hThere := hHeld hPrefix' hRegistered'
    obtain rfl := hEnd.same hHere hThere
    obtain ⟨c, -, rfl, -, -⟩ := hEnd.bound hHere
    exact ⟨c, hLoaded, hLoaded', congrArg Prod.fst (Generator.outcome_getClass hHere),
      congrArg Prod.fst (Generator.outcome_getClass hThere)⟩

namespace Loading.Sample

def stocked : Workspace := workspace (.emptyClass "mCPersistent")

def otherGenerator : Generator := ⟨"elsewhere", "ns", "s"⟩

/-- A load from the file, and one of the same class in memory through another registry. -/
def loads : List Request :=
  [.load generator world (.cls target) (.str "never"),
    .load otherGenerator world (.named "m:C") (.str "ephemeral")]

theorem loads_bind : stocked.RunsBindClasses loads := by
  have hModules : (stocked.serve (.load generator world (.cls target) (.str "never"))).modules
      = [("ns.mCPersistent", [("mCPersistent",
          .cls ⟨"ns.mCPersistent", "mCPersistent", 1, false⟩)])] := rfl
  refine ⟨fun name bindings hFirst => ?_, fun name bindings hSecond => ?_, trivial⟩
  · rw [hModules] at hFirst
    cases hFirst
    exact ⟨_, rfl⟩
  · rw [hModules] at hSecond
    cases hSecond

end Loading.Sample

open Loading.Sample in
/-- The second registry takes over the class of the first. -/
theorem one_class_per_name_of_loads :
    ∃ c, (outcome (generator.loadClass world (.cls target) (.str "never")) stocked).1
        = .ok (.cls c) ∧
      (outcome (otherGenerator.loadClass world (.named "m:C") (.str "ephemeral"))
        (stocked.after (loads.take 1))).1 = .ok (.cls c) := by
  obtain ⟨-, -, -, -, -, -, hSame⟩ :=
    @one_class_per_name stocked loads (fun _ => rfl) loads_bind
  obtain ⟨c, hFirst, hSecond, -⟩ := hSame generator otherGenerator world world (.cls target)
    (.named "m:C") (.str "never") (.str "ephemeral") [] (loads.take 1) "ns.mCPersistent"
    ⟨_, rfl⟩ ⟨_, rfl⟩ rfl rfl
  exact ⟨c, hFirst, hSecond⟩

end Interpose

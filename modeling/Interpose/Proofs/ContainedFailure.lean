import Interpose.CommandLine.Run
import Interpose.Proofs.Conversion.Failures
import Interpose.Proofs.Conversion.Places
import Interpose.Proofs.Stateful
import Interpose.Proofs.Sequence

/-! # Contained failures

The introspection of a class either succeeds or fails with a report, except where an annotation of
a public method leads to something whose conversion fails in another way. A report is all that a
command says if it fails over the annotations of its target.
-/
namespace Interpose

set_option autoImplicit false

open CommandLine Stateful

/-- The annotations of a function that are converted. -/
def Routine.hints (r : Routine) (hasReceiver : Bool) : List Object :=
  let declared := if hasReceiver then World.dropReceiver r.parameters else r.parameters
  declared.filterMap (·.hint) ++ r.returns.toList

/-- The annotations of an attribute that are converted, each with the module whose names it
means. -/
def Attribute.hints : Attribute → List (String × Object)
  | .function r | .classMethod r => (r.hints true).map (r.home, ·)
  | .staticMethod r => (r.hints false).map (r.home, ·)
  | .native _ (some parameters) _ =>
    (Routine.hints ⟨parameters, none, "", false, false, true, 0⟩ true).map ("", ·)
  | .native _ none _ | .property _ | .plain _ | .descriptor => []

namespace World

/-- An annotation of a public method leads to something that fails without a report. -/
def ComesTo (world : World) (c : ClassRef) (failure : Failure) : Prop :=
  ∃ k name item home hint culprit, (k, name, item) ∈ world.surface c ∧ (home, hint) ∈ item.hints ∧
    Conversion.Reaches (world.namespaceOf home) (.object hint) culprit ∧
    Conversion.Escapes (world.namespaceOf home) failure culprit

variable {world : World} {c : ClassRef} {failure : Failure}

theorem isPlaced_namespaceOf (world : World) (module : String) :
    Conversion.IsPlaced (world.namespaceOf module) :=
  isPlaced_find

theorem exists_of_hintType_eq_error {ns : Namespace} {hint : Option Object}
    (h : hintType ns hint = .error failure) :
    ∃ object, hint = some object ∧ object.toType ns = .error failure := by
  cases hint with
  | none => cases h
  | some object => exact ⟨object, rfl, Sequence.map_eq_error_iff.1 h⟩

/-- A method cannot be read at all, or one of its annotations cannot be converted. -/
theorem exists_of_methodOf_eq_error {name : String} {isStatic hasReceiver : Bool} {r : Routine}
    (h : world.methodOf c name isStatic hasReceiver r = .error failure) :
    failure.isIntrospection = true ∨
      ∃ hint ∈ r.hints hasReceiver, hint.toType (world.namespaceOf r.home) = .error failure := by
  rw [methodOf] at h
  split at h
  next =>
    cases h
    exact .inl rfl
  next =>
    refine .inr ?_
    obtain hParameters | ⟨parameters, -, hRest⟩ := Sequence.bind_eq_error_iff.1 h
    · obtain ⟨p, hMem, hParameter⟩ := Sequence.exists_of_mapM_eq_error hParameters
      obtain hHint | ⟨_, -, ⟨⟩⟩ := Sequence.bind_eq_error_iff.1 hParameter
      obtain ⟨hint, hSome, hType⟩ := exists_of_hintType_eq_error hHint
      exact ⟨hint, List.mem_append_left _ (List.mem_filterMap.2 ⟨p, hMem, hSome⟩), hType⟩
    · obtain hReturns | ⟨_, -, ⟨⟩⟩ := Sequence.bind_eq_error_iff.1 hRest
      obtain ⟨hint, hSome, hType⟩ := exists_of_hintType_eq_error hReturns
      exact ⟨hint, List.mem_append_right _ (Option.mem_toList.2 hSome), hType⟩

theorem exists_of_introspectAttribute_eq_error {name : String} {item : Attribute}
    (h : world.introspectAttribute c name item = .error failure) :
    failure.isIntrospection = true ∨
      ∃ home hint, (home, hint) ∈ item.hints ∧
        hint.toType (world.namespaceOf home) = .error failure := by
  have hMethod : ∀ {isStatic hasReceiver : Bool} {r : Routine},
      (world.methodOf c name isStatic hasReceiver r).map some = .error failure →
      item.hints = (r.hints hasReceiver).map (r.home, ·) →
      failure.isIntrospection = true ∨
        ∃ home hint, (home, hint) ∈ item.hints ∧
          hint.toType (world.namespaceOf home) = .error failure := by
    intro isStatic hasReceiver r hFails hHints
    obtain hReported | ⟨hint, hMem, hType⟩ :=
      exists_of_methodOf_eq_error (Sequence.map_eq_error_iff.1 hFails)
    · exact .inl hReported
    · exact .inr ⟨r.home, hint, hHints ▸ List.mem_map_of_mem hMem, hType⟩
  cases item with
  | function r => exact hMethod h rfl
  | staticMethod r => exact hMethod h rfl
  | classMethod r => exact hMethod h rfl
  | property | plain | descriptor => cases h
  | native owner parameters ofClass =>
    cases parameters with
    | none => cases h
    | some parameters => exact hMethod h rfl

theorem exists_of_introspect_eq_error (h : world.introspect c = .error failure) :
    failure.isIntrospection = true ∨ world.ComesTo c failure := by
  obtain hMethods | ⟨_, -, ⟨⟩⟩ := Sequence.bind_eq_error_iff.1 h
  obtain ⟨⟨k, name, item⟩, hSurface, hItem⟩ := Sequence.exists_of_mapM_eq_error hMethods
  obtain hReported | ⟨home, hint, hHint, hType⟩ := exists_of_introspectAttribute_eq_error hItem
  · exact .inl hReported
  obtain hReported | ⟨culprit, hReaches, hEscapes⟩ :=
    Conversion.failure_of_toType (world.isPlaced_namespaceOf home) hType
  · exact .inl hReported
  · exact .inr ⟨k, name, item, home, hint, culprit, hSurface, hHint, hReaches, hEscapes⟩

end World

namespace CommandLine

/-- A command that failed with a report of the cause. -/
def Outcome.report (failure : Failure) : Outcome :=
  { output := "Error: " ++ failure.message ++ "\n", exitCode := 1 }

theorem failed_of_isReported {failure : Failure} (h : failure.isReported = true) :
    Outcome.failed "" failure = .report failure := by
  rw [Outcome.failed, if_pos h, Outcome.report, String.empty_append]

variable {world : World} {c : ClassRef} {failure : Failure} {settings : List Setting}

theorem describe_of_introspect_eq_error
    (hTarget : world.resolveTarget ((valueOf? "target" settings).getD "") = .ok c)
    (h : world.introspect c = .error failure) : describe world settings = .failed "" failure := by
  have hFails : (do
      let c ← world.resolveTarget ((valueOf? "target" settings).getD "")
      world.introspect c) = .error failure := by
    rw [hTarget]
    exact h
  rw [describe]
  dsimp only
  rw [hFails]

theorem outcome_generateIn (g : Generator) {target : TargetRef} {directory : String}
    {p : Workspace} (hTarget : target.resolve world = .ok c)
    (h : world.introspect c = .error failure) :
    outcome (g.generateIn world target directory) p = (.error failure, p) := by
  have hSource : ∀ name, sourceFor ⟨world, p.modules⟩ (.cls c) name = .error failure := by
    intro name
    exact Sequence.bind_eq_error_iff.2 (.inr ⟨c, rfl, Sequence.bind_eq_error_iff.2 (.inl h)⟩)
  rw [Generator.generateIn, hTarget, outcome_bind, outcome_lift]
  dsimp only
  rw [generateClass, outcome_get_bind, hSource, outcome_bind, outcome_lift]

/-- A command that cannot introspect its target writes nothing. -/
theorem generate_of_introspect_eq_error {p : Workspace} {configuration : Configuration}
    (hTarget : world.resolveTarget ((valueOf? "target" settings).getD "") = .ok c)
    (h : world.introspect c = .error failure)
    (hRead : readConfiguration p.storage settings = .ok configuration) :
    ∃ cause ∈ [failure, .directoryRequired, .namespaceRequired],
      (generate world settings).run p = (.failed "" cause, p) := by
  have hFails : ∀ g : Generator, ∃ cause ∈ [failure, .directoryRequired, .namespaceRequired],
      outcome (do
        if g.directory = "" then throw .directoryRequired
        if g.namespaceName = "" then throw .namespaceRequired
        g.generateIn world (.named ((valueOf? "target" settings).getD "")) g.directory) p
          = (.error cause, p) := by
    intro g
    by_cases hDirectory : g.directory = ""
    · refine ⟨.directoryRequired, by simp, ?_⟩
      rw [if_pos hDirectory]
      rfl
    by_cases hNamespace : g.namespaceName = ""
    · refine ⟨.namespaceRequired, by simp, ?_⟩
      rw [if_neg hDirectory, if_pos hNamespace]
      rfl
    · refine ⟨failure, List.mem_cons_self, ?_⟩
      rw [if_neg hDirectory, if_neg hNamespace]
      exact outcome_generateIn g hTarget h
  obtain ⟨cause, hMem, hCause⟩ :=
    hFails ⟨((valueOf? "directory" settings).or configuration.directory).getD "",
      ((valueOf? "namespace" settings).or configuration.namespaceName).getD "", ""⟩
  refine ⟨cause, hMem, ?_⟩
  rw [generate, StateT.run_bind, StateT.run_get, pure_bind]
  dsimp only
  rw [hRead]
  exact run_bind_of_outcome hCause

/-- Both commands, asked for the class, report the cause; the one that writes can also find that it
is not told where to write, and writes nothing. -/
def Report (world : World) (c : ClassRef) (failure : Failure) : Prop :=
  ∀ settings, world.resolveTarget ((valueOf? "target" settings).getD "") = .ok c →
    describe world settings = .report failure ∧
      ∀ (p : Workspace) (configuration : Configuration),
        readConfiguration p.storage settings = .ok configuration →
          ∃ cause ∈ [failure, .directoryRequired, .namespaceRequired],
            (generate world settings).run p = (.report cause, p)

theorem report_of_introspect_eq_error (hReported : failure.isIntrospection = true)
    (h : world.introspect c = .error failure) : Report world c failure := by
  have hFailure : failure.isReported = true := by simp [Failure.isReported, hReported]
  intro settings hTarget
  constructor
  · rw [describe_of_introspect_eq_error hTarget h, failed_of_isReported hFailure]
  · intro p configuration hRead
    obtain ⟨cause, hMem, hRun⟩ := generate_of_introspect_eq_error hTarget h hRead
    have hCause : cause.isReported = true := by
      rcases List.mem_cons.1 hMem with rfl | hOther
      · exact hFailure
      · rcases List.mem_pair.1 hOther with rfl | rfl <;> rfl
    refine ⟨cause, hMem, ?_⟩
    rw [hRun, failed_of_isReported hCause]

end CommandLine

/-- An introspection succeeds, or fails with a report that the commands show, or has come to
something whose conversion fails without a report. -/
theorem introspection_failure_contained (world : World) (c : ClassRef) :
    (∃ target, world.introspect c = .ok target) ∨
      ∃ failure, world.introspect c = .error failure ∧
        (failure.isIntrospection = true ∧ CommandLine.Report world c failure ∨
          world.ComesTo c failure) := by
  cases h : world.introspect c with
  | ok target => exact .inl ⟨target, rfl⟩
  | error failure =>
    refine .inr ⟨failure, rfl, ?_⟩
    obtain hReported | hComesTo := World.exists_of_introspect_eq_error h
    · exact .inl ⟨hReported, report_of_introspect_eq_error hReported h⟩
    · exact .inr hComesTo

namespace ContainedFailure.Sample

def queue : ClassRef := ⟨"m", "Queue", 1, false⟩

def receiver : DeclaredParameter := ⟨"self", .positionalOrKeyword, none, none⟩

def item : DeclaredParameter :=
  ⟨"item", .positionalOrKeyword, some (.value (.str "Literal[007]")), none⟩

def add : Routine := ⟨[receiver, item], none, "m", false, false, true, 2⟩

def world : World where
  modules := [⟨"m", false, [("Literal", .special "Literal"), ("Queue", .cls queue)]⟩]
  classes := [⟨queue, "Queue", [ClassRef.objectClass], [queue, ClassRef.objectClass],
    [("add", .function add)], []⟩]
  memory := []

theorem toType_numeral (ns : Namespace) :
    (Object.value (.str "Literal[007]")).toType ns = .error .unreadableLiteral := by
  have hSpelled : (HintText.spelled? "Literal[007]".toList).map
      (fun spelled => (spelled.mapLeaves? HintText.Spelling.read?).isNone) = some true := by
    decide +kernel
  obtain ⟨spelled, hSome, hNone⟩ := Option.map_eq_some_iff.1 hSpelled
  have hRead : ∀ shown, HintText.parseShown "Literal[007]" shown = .error .unreadableLiteral := by
    intro shown
    rw [HintText.parseShown, hSome]
    dsimp only
    rw [Option.isNone_iff_eq_none.1 hNone]
  rw [Object.toType, Conversion.ofObject, Conversion.ofValue, Conversion.ofText, hRead]

theorem introspect_queue : world.introspect queue = .error .unreadableLiteral := by
  have hParameters : [item].mapM (World.parameterOf (world.namespaceOf "m"))
      = .error .unreadableLiteral := by
    rw [List.mapM_cons, World.parameterOf]
    dsimp only [item, World.hintType]
    rw [toType_numeral]
    rfl
  have hMethod : world.methodOf queue "add" false true add = .error .unreadableLiteral :=
    Sequence.bind_eq_error_iff.2 (.inl hParameters)
  have hSurface : world.surface queue = [(queue, "add", .function add)] := rfl
  rw [World.introspect, hSurface, List.mapM_cons]
  dsimp only [World.introspectAttribute]
  rw [hMethod]
  rfl

end ContainedFailure.Sample

open ContainedFailure.Sample CommandLine in
/-- A number with a superfluous zero follows the grammar, but cannot be read; no name of the module
means a text. -/
theorem introspection_failure_not_contained :
    (∀ m ∈ world.modules, ∀ binding ∈ m.bindings, binding.2.textSize = 0) ∧
      world.introspect queue = .error .unreadableLiteral ∧
      Failure.isIntrospection .unreadableLiteral = false ∧
      describe world [⟨targetOption, "m:Queue"⟩]
        = { output := "", exitCode := 1, failure := some .unreadableLiteral } :=
  ⟨by decide, introspect_queue, rfl, describe_of_introspect_eq_error rfl introspect_queue⟩

end Interpose

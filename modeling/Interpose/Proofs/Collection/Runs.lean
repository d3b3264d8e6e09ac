import Interpose.Instance
import Interpose.Proofs.Stateful

/-! # Runs of decorated collections

A run calls forwarding methods and operations of the decoration, one after the other. When the
collection is loaded, the unit of work can add elements to the wrapped collection and call back;
what it does next may depend on how that has ended, and in the end it can fail.
-/
namespace Interpose

set_option autoImplicit false

open Stateful

namespace Collection

/-- What can be called on a decorated collection. The mark of having been loaded is not among it. -/
inductive Activity where
  | call (m : DecoratedMethod) (given : Call Value)
  | ensureLoaded
  | changed
  | setOwner (owner : Option Element) (mapping : Option Mapping)
  | setDirty (isDirty : Bool)
  | takeSnapshot
  | clearSnapshot

def Activity.perform (load : Operation Unit) : Activity → Operation Answer
  | .call m given => callDecorated load m given
  | .ensureLoaded => do
    Collection.ensureLoaded load
    return .nothing
  | .changed => do
    Collection.changed
    return .nothing
  | .setOwner owner mapping => do
    Collection.setOwner owner mapping
    return .nothing
  | .setDirty isDirty => do
    Collection.setDirty isDirty
    return .nothing
  | .takeSnapshot => do
    Collection.takeSnapshot
    return .nothing
  | .clearSnapshot => do
    Collection.clearSnapshot
    return .nothing

/-- What a unit of work does to load a collection. A call back comes with the loader that would load
the collection again during that call. -/
inductive Loader where
  | done
  | fail (failure : Failure)
  | append (elements : List Element) (next : Loader)
  | perform (activity : Activity) (nested : Loader)
    (next : Except Failure Answer → Collection → Loader)

def observe {α : Type} (x : Operation α) : Operation (Except Failure α) :=
  tryCatch (Except.ok <$> x) fun failure => pure (.error failure)

def loadBy (work : Operation Unit) : Operation Unit := do
  record .loading
  work

namespace Loader

def run : Loader → Operation Unit
  | .done => pure ()
  | .fail failure => throw failure
  | .append elements next => do
    modify fun c => { c with content := c.content ++ elements }
    run next
  | .perform activity nested next => do
    let result ← observe (activity.perform (loadBy (run nested)))
    let c ← get
    run (next result c)

def load (loader : Loader) : Operation Unit :=
  loadBy loader.run

end Loader

theorem load_eq_loader (work : UnitOfWork) :
    work.load
      = Loader.load (if work.fails then .fail .loadFailed else .append work.elements .done) := by
  rw [UnitOfWork.load, Loader.load, loadBy]
  cases work.fails with
  | true => rfl
  | false => rfl

/-- A step of a run: a call, together with the loader that would load the collection during it, or
setting the mark of having been loaded. In between, others can change the wrapped collection and
what the collaborators answer. -/
inductive RunStep where
  | perform (activity : Activity) (loader : Loader)
  | setInitialized (isInitialized : Bool)
  | elsewhere (content : List Element) (notifies : Value) (refusals : List (Option Failure))

def RunStep.operation : RunStep → Operation Answer
  | .perform activity loader => activity.perform loader.load
  | .setInitialized isInitialized => do
    Collection.setInitialized isInitialized
    return .nothing
  | .elsewhere content notifies refusals => do
    modify fun c => { c with content, notifies, refusals }
    return .nothing

/-- The collection after some steps; a step that fails is followed by the next one. -/
def after (c : Collection) (run : List RunStep) : Collection :=
  run.foldl (fun c step => (outcome step.operation c).2) c

structure IsFresh (c : Collection) : Prop where
  owner : c.owner = none
  mapping : c.mapping = none
  snapshot : c.snapshot = []
  isDirty : c.isDirty = false
  isInitialized : c.isInitialized = true
  events : c.events = []
  history : c.history = []

end Collection
end Interpose

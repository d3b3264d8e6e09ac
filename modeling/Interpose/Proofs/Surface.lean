import Interpose.Introspection
import Interpose.Proofs.ForwardingText
import Interpose.Proofs.Sequence
import Interpose.Source.ClassSource
import Mathlib.Data.List.Flatten
import Mathlib.Data.List.Forall2

/-! # The surface of a class

Of each public name, the first class in the order of resolution that has it decides: if what it
holds is a method, this is the one entry of that name, and otherwise there is none. The entries
keep the order of the classes and, within a class, that of declaration. A generated class forwards
exactly the entries that neither are final or static nor belong to the making or the decoration of
objects.
-/
namespace Interpose

set_option autoImplicit false

namespace Attribute

def isMethod : Attribute → Bool
  | .property _ | .plain _ => false
  | .function _ | .staticMethod _ | .classMethod _ | .descriptor | .native .. => true

def isStatic : Attribute → Bool
  | .staticMethod _ | .classMethod _ => true
  | .native _ _ ofClass => ofClass
  | .function _ | .property _ | .descriptor | .plain _ => false

def isFinal : Attribute → Bool
  | .function r | .staticMethod r | .classMethod r => r.isFinal
  | .property _ | .descriptor | .native .. | .plain _ => false

end Attribute

/-- Whether a generated class has a forwarding method for the method. -/
def Method.IsForwarded (m : Method) : Prop :=
  m.isFinal = false ∧ m.isStatic = false ∧ m.name ≠ "__init__" ∧ m.name ≠ "__new__" ∧
    m.name ∉ supportNames

instance (m : Method) : Decidable m.IsForwarded :=
  inferInstanceAs (Decidable (_ ∧ _))

theorem ForwardingMethod.of_eq_ok {world : World} {m : Method} {f : ForwardingMethod}
    (h : of world m = .ok f) :
    ∃ hint declaration, m.returnHint world = .ok hint ∧
      writtenDeclaration world m = .ok declaration ∧
      f = ⟨m.name, m.isAsync, declaration, hint, callArguments m.parameters⟩ := by
  obtain ⟨hint, hHint, h⟩ := Sequence.bind_eq_ok_iff.mp h
  obtain ⟨declaration, hDeclaration, h⟩ := Sequence.bind_eq_ok_iff.mp h
  exact ⟨hint, declaration, hHint, hDeclaration, (Except.ok.inj h).symm⟩

/-- An attribute under its name, with the class that holds it. -/
abbrev Entry := ClassRef × String × Attribute

namespace World

variable (world : World)

def entries (c : ClassRef) : List Entry :=
  (world.surfaceClasses c).flatMap fun k => (world.attributes k).map fun entry =>
    (k, entry.1, entry.2)

structure Describes (entry : Entry) (m : Method) : Prop where
  converted : world.introspectAttribute entry.1 entry.2.1 entry.2.2 = .ok (some m)
  name : m.name = entry.2.1
  declaring : m.declaring = .ofClass entry.1
  isFinal : m.isFinal = entry.2.2.isFinal
  isStatic : m.isStatic = entry.2.2.isStatic

end World

namespace Surface

variable {world : World}

/-! ## One attribute -/

/-- A routine that becomes a method can be read, and the annotations of its result and of its
parameters, without the receiver if it has one, have been converted. -/
theorem methodOf_eq_ok {c : ClassRef} {name : String} {isStatic hasReceiver : Bool} {r : Routine}
    {m : Method} (h : world.methodOf c name isStatic hasReceiver r = .ok m) :
    r.isReadable = true ∧ ∃ parameters returns,
      (if hasReceiver then World.dropReceiver r.parameters else r.parameters).mapM
        (World.parameterOf (world.namespaceOf r.home)) = .ok parameters ∧
      World.hintType (world.namespaceOf r.home) r.returns = .ok returns ∧
      m = {
        name, declaring := .ofClass c, parent := world.parentType c, parameters, returns
        isFinal := r.isFinal, isStatic, isAsync := r.isCoroutine } := by
  cases hReadable : r.isReadable with
  | false =>
    simp only [World.methodOf, hReadable] at h
    cases h
  | true =>
    simp only [World.methodOf, hReadable, Bool.not_true, Bool.false_eq_true, if_false] at h
    obtain ⟨parameters, hParameters, h⟩ := Sequence.bind_eq_ok_iff.mp h
    obtain ⟨returns, hReturns, h⟩ := Sequence.bind_eq_ok_iff.mp h
    exact ⟨rfl, parameters, returns, hParameters, hReturns, (Except.ok.inj h).symm⟩

theorem introspectAttribute_eq_ok {entry : Entry} {result : Option Method}
    (h : world.introspectAttribute entry.1 entry.2.1 entry.2.2 = .ok result) :
    if entry.2.2.isMethod then ∃ m, result = some m ∧ world.Describes entry m
    else result = none := by
  obtain ⟨k, name, item⟩ := entry
  have hMethodOf : ∀ {isStatic hasReceiver : Bool} {r : Routine},
      (world.methodOf k name isStatic hasReceiver r).map some = .ok result →
      r.isFinal = item.isFinal → isStatic = item.isStatic →
      ∃ m, result = some m ∧ world.Describes (k, name, item) m := by
    intro isStatic hasReceiver r hMap hFinal hStatic
    obtain ⟨m, hm, rfl⟩ := Sequence.map_eq_ok_iff.mp hMap
    obtain ⟨-, parameters, returns, -, -, rfl⟩ := methodOf_eq_ok hm
    exact ⟨_, rfl, h, rfl, rfl, hFinal, hStatic⟩
  cases item with
  | function r | staticMethod r | classMethod r => exact hMethodOf h rfl rfl
  | property r | plain object =>
    cases h
    rfl
  | descriptor =>
    cases h
    exact ⟨_, rfl, rfl, rfl, rfl, rfl, rfl⟩
  | native label parameters ofClass =>
    cases parameters with
    | some parameters => exact hMethodOf h rfl rfl
    | none =>
      cases h
      exact ⟨_, rfl, rfl, rfl, rfl, rfl, rfl⟩

/-! ## The entries that decide -/

theorem firstsByName_sublist (seen : List String) (entries : List Entry) :
    (World.firstsByName seen entries).Sublist entries := by
  induction entries generalizing seen with
  | nil => exact .slnil
  | cons entry entries ih =>
    rw [World.firstsByName]
    split
    · exact .cons entry (ih seen)
    · exact .cons_cons entry (ih _)

theorem filter_firstsByName (seen : List String) (entries : List Entry) (name : String) :
    (World.firstsByName seen entries).filter (fun entry => entry.2.1 == name)
      = if seen.contains name then []
        else (entries.find? fun entry => entry.2.1 == name).toList := by
  -- The names that have been seen grow on the way, so the induction is for all of them.
  induction entries generalizing seen with
  | nil => simp [World.firstsByName]
  | cons entry entries ih =>
    rw [World.firstsByName, List.find?_cons]
    by_cases hSeen : seen.contains entry.2.1 = true
    · rw [if_pos hSeen, ih]
      cases hName : entry.2.1 == name with
      | true => rw [← beq_iff_eq.mp hName, if_pos hSeen, if_pos hSeen]
      | false => rfl
    · rw [if_neg hSeen, List.filter_cons, ih]
      cases hName : entry.2.1 == name with
      | true =>
        obtain rfl := beq_iff_eq.mp hName
        have hNew : entry.2.1 ∉ seen := by simpa using hSeen
        simp [hNew]
      | false =>
        have hNe : name ≠ entry.2.1 := (ne_of_beq_false hName).symm
        simp [hNe]

theorem find?_attributes (k : ClassRef) (attributes : List (String × Attribute)) (name : String) :
    ((attributes.filter fun entry => isPublic entry.1).map fun entry =>
        (k, entry.1, entry.2)).find? (fun entry => entry.2.1 == name)
      = if isPublic name then (attributes.lookup name).map (fun item => (k, name, item))
        else none := by
  induction attributes with
  | nil => simp
  | cons entry attributes ih =>
    obtain ⟨key, item⟩ := entry
    cases hName : name == key with
    | true =>
      obtain rfl := beq_iff_eq.mp hName
      cases hPublic : isPublic name <;> simp [hPublic, ih]
    | false =>
      have hNe : key ≠ name := (ne_of_beq_false hName).symm
      cases hPublic : isPublic key <;> simp [List.lookup_cons, hName, hPublic, hNe, ih]

/-- The first public entry with a name is what the first class that has the name holds. -/
theorem find?_flatMap_attributes (classes : List ClassRef) (name : String) :
    (classes.flatMap fun k =>
        ((world.attributes k).filter fun entry => isPublic entry.1).map fun entry =>
          (k, entry.1, entry.2)).find? (fun entry => entry.2.1 == name)
      = if isPublic name then
          (world.firstAttribute? name classes).map fun found => (found.1, name, found.2)
        else none := by
  induction classes with
  | nil => simp [World.firstAttribute?]
  | cons k classes ih =>
    rw [List.flatMap_cons, List.find?_append, ih, find?_attributes, World.firstAttribute?]
    cases isPublic name <;> cases (world.attributes k).lookup name <;> simp

theorem filter_surface (c : ClassRef) (name : String) :
    (world.surface c).filter (fun entry => entry.2.1 == name)
      = if isPublic name then
          ((world.firstAttribute? name (world.surfaceClasses c)).map fun found =>
            (found.1, name, found.2)).toList
        else [] := by
  rw [World.surface, filter_firstsByName, find?_flatMap_attributes]
  cases isPublic name <;> simp

theorem surface_sublist_entries (c : ClassRef) : (world.surface c).Sublist (world.entries c) := by
  refine (firstsByName_sublist _ _).trans (List.Sublist.flatMap_right _ fun k _ => ?_)
  exact List.filter_sublist.map _

/-! ## Methods -/

theorem describes_of_results {entries : List Entry} {results : List (Option Method)}
    (h : List.Forall₂ (fun entry result =>
      world.introspectAttribute entry.1 entry.2.1 entry.2.2 = .ok result) entries results) :
    List.Forall₂ world.Describes (entries.filter fun entry => entry.2.2.isMethod)
      (results.filterMap id) := by
  induction h with
  | nil => exact .nil
  | @cons entry result _ _ hResult _ ih =>
    have hMethod := introspectAttribute_eq_ok hResult
    cases hKind : entry.2.2.isMethod with
    | false =>
      rw [hKind] at hMethod
      rw [List.filter_cons, hKind, List.filterMap_cons, show result = none from hMethod]
      exact ih
    | true =>
      rw [hKind] at hMethod
      obtain ⟨m, rfl, hDescribes⟩ := hMethod
      rw [List.filter_cons, hKind, List.filterMap_cons]
      exact .cons hDescribes ih

/-- The methods of a target are described, one by one, by the deciding entries that are methods. -/
theorem describes_methods {c : ClassRef} {target : Target} (h : world.introspect c = .ok target) :
    List.Forall₂ world.Describes ((world.surface c).filter fun entry => entry.2.2.isMethod)
      target.methods := by
  obtain ⟨results, hResults, h⟩ := Sequence.bind_eq_ok_iff.mp h
  cases h
  exact describes_of_results (Sequence.mapM_eq_ok_iff.mp hResults)

theorem describes_methods_of_name {c : ClassRef} {target : Target}
    (h : world.introspect c = .ok target) (name : String) :
    List.Forall₂ world.Describes
      (((world.surface c).filter fun entry => entry.2.1 == name).filter fun entry =>
        entry.2.2.isMethod)
      (target.methods.filter fun m => m.name == name) := by
  rw [List.filter_comm]
  refine List.rel_filter ?_ (describes_methods h)
  intro entry m hDescribes
  show entry.2.1 == name ↔ m.name == name
  rw [hDescribes.name]

/-! ## Forwarded methods -/

theorem isNone_skipReason (m : Method) : m.skipReason.isNone = decide m.IsForwarded := by
  rw [Bool.eq_iff_iff, decide_eq_true_iff]
  unfold Method.skipReason Method.IsForwarded
  split
  · rename_i hSupport
    simp [List.contains_iff_mem.mp hSupport]
  · rename_i hSupport
    have hOwn : m.name ∉ supportNames := fun hMem => hSupport (List.contains_iff_mem.mpr hMem)
    split
    · rename_i hName
      rcases hName with hName | hName <;> simp [hName]
    · rename_i hName
      cases hFinal : m.isFinal <;> cases hStatic : m.isStatic <;> simp_all

/-- The lines of a forwarding method define the method of the same name, run the hooks and call the
wrapped collection. -/
theorem lines_of_forwarding {m : Method} {f : ForwardingMethod}
    (h : ForwardingMethod.of world m = .ok f) :
    f.lines = forwardingLines m.isAsync m.name (declarationText f.declaration).text f.resultText
      f.words f.argumentsText := by
  obtain ⟨hint, declaration, -, -, rfl⟩ := ForwardingMethod.of_eq_ok h
  exact ForwardingMethod.lines_eq _

/-- A generated class has a forwarding method for each method that is to be forwarded, in order. -/
theorem methods_of_classSource {target : Target} {className : String} {source : ClassSource}
    (h : ClassSource.of world target className = .ok source) :
    List.Forall₂ (fun m f => ForwardingMethod.of world m = .ok f ∧
        f.lines = forwardingLines m.isAsync m.name (declarationText f.declaration).text
          f.resultText f.words f.argumentsText)
      (target.methods.filter fun m => m.IsForwarded) source.methods := by
  obtain ⟨methods, hMethods, h⟩ := Sequence.bind_eq_ok_iff.mp h
  cases h
  simp only [isNone_skipReason] at hMethods
  exact (Sequence.mapM_eq_ok_iff.mp hMethods).imp fun _ _ h => ⟨h, lines_of_forwarding h⟩

end Surface

open Surface in
/-- Introspection yields one method for each public name whose first holder in the order of
resolution has a method there, and none for any other name; the methods stand in the order of the
classes and of their declarations. A generated class forwards, in the same order, each method that
is to be forwarded: after the constructor its text consists of the lines of the forwarding methods,
of which each is defined under the name of its method, runs the hooks and calls the wrapped
collection. If nothing in it breaks a line, these are all the methods that the text defines. -/
theorem interception_exact (world : World) (c : ClassRef) {target : Target}
    (h : world.introspect c = .ok target) :
    (∀ name k item, isPublic name = true →
      world.firstAttribute? name (world.surfaceClasses c) = some (k, item) →
      item.isMethod = true →
      ∃ m, target.methods.filter (fun m => m.name == name) = [m] ∧
        world.Describes (k, name, item) m) ∧
    (∀ name, ¬ (isPublic name = true ∧ ∃ k item,
        world.firstAttribute? name (world.surfaceClasses c) = some (k, item) ∧
          item.isMethod = true) →
      ∀ m ∈ target.methods, m.name ≠ name) ∧
    (∃ entries : List Entry, entries.Sublist (world.entries c) ∧
      List.Forall₂ world.Describes entries target.methods) ∧
    ∀ className source, ClassSource.of world target className = .ok source →
      List.Forall₂ (fun m f => ForwardingMethod.of world m = .ok f ∧
          f.lines = forwardingLines m.isAsync m.name (declarationText f.declaration).text
            f.resultText f.words f.argumentsText)
        (target.methods.filter fun m => m.IsForwarded) source.methods ∧
      source.text = Text.joinLines (source.headLines ++
        (ClassSource.constructorLines :: source.methods.map ForwardingMethod.lines).flatten) ∧
      (source.KeepsLines → methodsIn (Text.lines source.text)
        = ClassSource.constructorLines :: source.methods.map ForwardingMethod.lines) := by
  refine ⟨?_, ?_, ?_, fun className source hSource =>
    ⟨methods_of_classSource hSource, source.text_eq, ClassSource.methodsIn_text⟩⟩
  · intro name k item hPublic hFirst hMethod
    have hNamed := describes_methods_of_name h name
    rw [filter_surface, hPublic, hFirst] at hNamed
    simp only [if_true, Option.map_some, Option.toList_some, List.filter_cons, hMethod,
      List.filter_nil] at hNamed
    obtain ⟨m, rest, hDescribes, hRest, hEq⟩ := List.forall₂_cons_left_iff.mp hNamed
    rw [List.forall₂_nil_left_iff.mp hRest] at hEq
    exact ⟨m, hEq, hDescribes⟩
  · intro name hNone m hm hName
    have hNamed := describes_methods_of_name h name
    have hMem : m ∈ target.methods.filter fun m => m.name == name :=
      List.mem_filter.mpr ⟨hm, beq_iff_eq.mpr hName⟩
    rw [filter_surface] at hNamed
    cases hPublic : isPublic name with
    | false =>
      rw [hPublic] at hNamed
      rw [List.forall₂_nil_left_iff.mp hNamed] at hMem
      cases hMem
    | true =>
      -- Whatever the first holder has under the name, it is no method.
      have hNoMethod : ((world.firstAttribute? name (world.surfaceClasses c)).map fun found =>
          ((found.1, name, found.2) : Entry)).toList.filter (fun entry => entry.2.2.isMethod)
            = [] := by
        cases hFirst : world.firstAttribute? name (world.surfaceClasses c) with
        | none => rfl
        | some found =>
          have hKind : found.2.isMethod = false := by
            rw [← Bool.not_eq_true]
            exact fun hMethod => hNone ⟨hPublic, found.1, found.2, hFirst, hMethod⟩
          simp [hKind]
      rw [hPublic, if_pos rfl, hNoMethod] at hNamed
      rw [List.forall₂_nil_left_iff.mp hNamed] at hMem
      cases hMem
  · exact ⟨_, List.filter_sublist.trans (surface_sublist_entries c), describes_methods h⟩

namespace Surface.Sample

def base : ClassRef := ⟨"store", "Base", 1, false⟩

def store : ClassRef := ⟨"store", "Store", 2, false⟩

def routine (isFinal : Bool) : Routine :=
  ⟨[⟨"self", .positionalOrKeyword, none, none⟩], none, "store", isFinal, false, true, 0⟩

/-- A class that redefines one method of its base, hides another and inherits a third. -/
def world : World where
  modules := []
  classes := [
    { ref := base, name := "Base", bases := [.objectClass], resolution := [base, .objectClass]
      attributes := [("__hash__", .function (routine false)), ("add", .function (routine false)),
        ("size", .function (routine true))] },
    { ref := store, name := "Store", bases := [base], resolution := [store, base, .objectClass]
      attributes := [("_grow", .function (routine false)), ("add", .function (routine false)),
        ("__hash__", .plain .none)] }]
  memory := []

def add : Method := { name := "add", declaring := .ofClass store, parent := some (.ofClass base) }

def size : Method := { name := "size", declaring := .ofClass base, isFinal := true }

def target : Target := ⟨"store", "Store", [add, size]⟩

end Surface.Sample

open Surface.Sample in
/-- An attribute that is no method hides the inherited method of its name, and a final method is
not forwarded. -/
theorem interception_exact_of_hidden :
    world.introspect store = .ok target ∧
      (∃ m, target.methods.filter (fun m => m.name == "add") = [m] ∧
        world.Describes (store, "add", .function (routine false)) m) ∧
      (∀ m ∈ target.methods, m.name ≠ "__hash__") ∧
      ∃ source, ClassSource.of world target "StorePersistent" = .ok source ∧
        methodsIn (Text.lines source.text) = [ClassSource.constructorLines,
          forwardingLines false "add" "self" "" "return " ""] := by
  have hTarget : world.introspect store = .ok target := rfl
  obtain ⟨hPresent, hAbsent, -, hForwarded⟩ := interception_exact world store hTarget
  refine ⟨hTarget, hPresent "add" store _ rfl rfl rfl, hAbsent "__hash__" ?_, _, rfl, ?_⟩
  · rintro ⟨-, k, item, hFirst, hMethod⟩
    cases hFirst
    cases hMethod
  · obtain ⟨-, -, hMethods⟩ := hForwarded "StorePersistent" _ rfl
    exact hMethods ⟨by decide, by decide, by decide, by decide +kernel⟩

end Interpose

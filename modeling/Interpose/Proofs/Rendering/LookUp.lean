import Interpose.Proofs.Rendering.Declared
import Interpose.Proofs.Rendering.Imports
import Interpose.Proofs.Text.Cutting
import Interpose.Source.Execution

/-! # Default values that are looked up

A default value that is no literal is written as a look-up on the declaring class. The look-up runs
in the body of the generated class, where a name means a method that has been defined before, and
only otherwise an import or a builtin. It yields the recorded default value as long as no method
hides what the look-up names. If a method hides the class, running the body fails.
-/
namespace Interpose

set_option autoImplicit false

open Sequence

/-! ## Dotted names -/

namespace Text

theorem dottedParts_append (s t : String) :
    dottedParts (s ++ "." ++ t) = dottedParts s ++ dottedParts t := by
  have hJoin : (s ++ "." ++ t).toList = s.toList ++ '.' :: t.toList := by simp
  rw [dottedParts, hJoin, cutAll_append, List.map_append]
  rfl

theorem dottedParts_ne_nil (s : String) : dottedParts s ≠ [] := by
  obtain ⟨part, parts, hCut, -⟩ := join_cutAll '.' s.toList
  rw [dottedParts, hCut]
  exact List.cons_ne_nil _ _

/-- The parts of a dotted name make it up again. -/
theorem intercalate_dottedParts (s : String) : ".".intercalate (dottedParts s) = s := by
  obtain ⟨part, parts, hCut, hJoin⟩ := join_cutAll '.' s.toList
  rw [← String.toList_inj, dottedParts, hCut, List.map_cons,
    HintText.Node.toList_intercalate_cons, String.toList_ofList, List.flatMap_map]
  simp only [String.toList_ofList]
  exact hJoin

end Text

theorem privatePath_eq {className dotted : String}
    (h : ∀ part ∈ Text.dottedParts dotted, privateName className part = part) :
    privatePath className dotted = dotted := by
  rw [privatePath, List.map_congr_left h, List.map_id', Text.intercalate_dottedParts]

/-! ## Paths -/

namespace World

variable (world : World)

/-- Whether names, read one after the other, lead from one object to another. -/
def Reaches (start : Object) (path : List String) (target : Object) : Prop :=
  ∃ place, world.follow ⟨start, none⟩ path = some ⟨target, place⟩

/-- Whether a class is found as itself under its module and the name that it is written with. -/
def IsReachable (k : ClassRef) : Prop :=
  world.Reaches (.module k.module) (Text.dottedParts (NamedType.ofClass k).name) (.value (.cls k))

variable {world}

theorem follow_append (found : Found) (path rest : List String) :
    world.follow found (path ++ rest)
      = (world.follow found path).bind fun next => world.follow next rest := by
  induction path generalizing found with
  | nil => rfl
  | cons name path ih =>
    rw [List.cons_append, follow, follow]
    cases world.read? found.object name with
    | none => rfl
    | some next => exact ih next

/-! ## The name of the declaring class -/

end World

/-- The first part of the name that a type is written with. -/
def NamedType.head (t : NamedType) : String :=
  (Text.dottedParts t.qualifiedName).headD ""

namespace World

variable (world : World)

/-- Whether the name of a class means in a generated module, and in the body of its class as long as
no method hides it, what it means under the module of the class: no part of it changes in the body,
neither the module nor the body binds its first part to something else, and a module is found in
its packages under its own name. -/
structure IsPlain (className : String) (imports : List String) (owner : NamedType) : Prop where
  unchanged : ∀ part ∈ Text.dottedParts owner.qualifiedName, privateName className part = part
  unbound : owner.head ∉ supportImports ++ bodyNames
  inPackage : ∀ module ∈ owner.module, Text.normalForm module = module ∧
    world.Reaches (.module owner.head) (Text.dottedParts module).tail (.module module)
  builtin : owner.module = none →
    (∀ module ∈ imports, (Text.dottedParts module).head? ≠ some owner.head) ∧
      owner.head ∉ typingImports ∧ (world.moduleAttribute? "builtins" owner.head).isSome

/-- Whether nothing hides what stands under the name of a named type at the top of a module with
some imports: the decoration support does not take the first part of the name, a module is found in
its packages, and neither an import nor a name of the typing module hides a builtin. -/
structure IsVisible (imports : List String) (owner : NamedType) : Prop where
  unbound : owner.head ∉ supportImports
  inPackage : ∀ module ∈ owner.module,
    world.Reaches (.module owner.head) (Text.dottedParts module).tail (.module module)
  builtin : owner.module = none →
    (∀ module ∈ imports, (Text.dottedParts module).head? ≠ some owner.head) ∧
      owner.head ∉ typingImports

/-- What stands under the module and the name of a named type, or under its name alone if it has no
module. -/
def standing? (t : NamedType) : Option Object :=
  let found :=
    match t.module, Text.dottedParts t.name with
    | some module, path => world.follow ⟨.module module, none⟩ path
    | none, head :: rest =>
      (world.moduleAttribute? "builtins" head).bind fun found => world.follow found rest
    | none, [] => none
  found.map Found.object

variable {world} {className : String} {imports : List String} {owner : NamedType}

theorem head_of_module {module : String} (hModule : owner.module = some module) :
    Text.dottedParts module = owner.head :: (Text.dottedParts module).tail := by
  obtain ⟨head, rest, hParts⟩ := List.exists_cons_of_ne_nil (Text.dottedParts_ne_nil module)
  rw [NamedType.head, NamedType.qualifiedName, hModule, Text.dottedParts_append, hParts]
  rfl

theorem head_of_builtin (hModule : owner.module = none) :
    Text.dottedParts owner.name = owner.head :: (Text.dottedParts owner.name).tail := by
  obtain ⟨head, rest, hParts⟩ := List.exists_cons_of_ne_nil (Text.dottedParts_ne_nil owner.name)
  rw [NamedType.head, NamedType.qualifiedName, hModule]
  simp only [hParts]
  rfl

theorem module_of_ofClass {k : ClassRef} :
    (NamedType.ofClass k).module = none ∧ k.module = "builtins" ∨
      (NamedType.ofClass k).module = some k.module := by
  unfold NamedType.ofClass
  split
  next hNone =>
    rw [hNone]
    exact .inl ⟨rfl, rfl⟩
  next =>
    split
    next hBuiltin => exact .inl ⟨rfl, hBuiltin⟩
    next => exact .inr rfl

theorem object_follow (object : Object) (place : Option Place) (path : List String) :
    (world.follow ⟨object, place⟩ path).map Found.object
      = (world.follow ⟨object, none⟩ path).map Found.object := by
  cases path <;> rfl

theorem standing?_of_module {module : String} (hModule : owner.module = some module) :
    world.standing? owner
      = (world.follow ⟨.module module, none⟩ (Text.dottedParts owner.name)).map Found.object := by
  rw [standing?, hModule]

theorem standing?_of_builtin (hModule : owner.module = none) :
    world.standing? owner = ((world.moduleAttribute? "builtins" owner.head).bind fun found =>
      world.follow found (Text.dottedParts owner.name).tail).map Found.object := by
  rw [standing?, hModule, head_of_builtin hModule]
  rfl

theorem globalObject_eq_ok_iff {dotted head : String} {rest : List String} {object : Object}
    (hParts : Text.dottedParts dotted = head :: rest) (hSupport : head ∉ supportImports) :
    world.globalObject imports dotted = .ok object ↔
      ((world.globalName? imports head).bind fun found => world.follow found rest).map Found.object
        = some object := by
  have hContains : supportImports.contains head = false := by
    rwa [← Bool.not_eq_true, List.contains_iff_mem]
  rw [globalObject, hParts]
  simp only [hContains, Bool.false_eq_true, if_false]
  cases world.globalName? imports head with
  | none => simp
  | some found => cases hFollow : world.follow found rest <;> simp [hFollow]

/-- Where its name is visible, it means what stands under it. -/
theorem globalObject_of_isVisible (hVisible : world.IsVisible imports owner)
    (hImports : ∀ module ∈ owner.module, module ∈ imports) (object : Object) :
    world.globalObject imports owner.qualifiedName = .ok object ↔
      world.standing? owner = some object := by
  cases hModule : owner.module with
  | none =>
    obtain ⟨hNotImported, hNotTyping⟩ := hVisible.builtin hModule
    have hName : owner.qualifiedName = owner.name := by
      rw [NamedType.qualifiedName, hModule]
    have hGlobal : world.globalName? imports owner.head
        = world.moduleAttribute? "builtins" owner.head := by
      rw [globalName?, if_neg, if_neg]
      · rwa [List.contains_iff_mem]
      · rw [List.any_eq_true]
        rintro ⟨module, hMem, hHead⟩
        exact hNotImported module hMem (beq_iff_eq.1 hHead)
    rw [hName, globalObject_eq_ok_iff (head_of_builtin hModule) hVisible.unbound, hGlobal,
      standing?_of_builtin hModule]
  | some module =>
    obtain ⟨place, hPackage⟩ := hVisible.inPackage module hModule
    have hParts : Text.dottedParts owner.qualifiedName
        = owner.head :: ((Text.dottedParts module).tail ++ Text.dottedParts owner.name) := by
      rw [NamedType.qualifiedName, hModule]
      simp only [Text.dottedParts_append]
      rw [head_of_module hModule, List.cons_append, List.tail_cons]
    have hGlobal : world.globalName? imports owner.head
        = some ⟨.module owner.head, none⟩ := by
      rw [globalName?, if_pos]
      refine List.any_eq_true.2 ⟨module, hImports module hModule, ?_⟩
      rw [head_of_module hModule]
      exact beq_self_eq_true _
    rw [globalObject_eq_ok_iff hParts hVisible.unbound, hGlobal, Option.bind_some, follow_append,
      hPackage, Option.bind_some, object_follow, standing?_of_module hModule]

/-- A class that is reachable under its own name stands there; a builtin has to be one of the
module of the builtins. -/
theorem standing?_of_isReachable {k : ClassRef} (hReachable : world.IsReachable k)
    (hOwn : (NamedType.ofClass k).module = none →
      (world.moduleAttribute? "builtins" (NamedType.ofClass k).head).isSome) :
    world.standing? (.ofClass k) = some (.value (.cls k)) := by
  obtain ⟨hModule, hBuiltin⟩ | hModule := module_of_ofClass (k := k)
  · obtain ⟨last, hFollow⟩ := hReachable
    rw [hBuiltin, head_of_builtin hModule] at hFollow
    obtain ⟨found, hFound⟩ := Option.isSome_iff_exists.1 (hOwn hModule)
    have hStored : world.stored? (.module "builtins") (NamedType.ofClass k).head = some found := by
      rw [stored?, hFound]
      rfl
    rw [follow, read?, hStored] at hFollow
    rw [standing?_of_builtin hModule, hFound, Option.bind_some]
    cases hNone : found.object.isNone with
    | true => simp [Option.filter, hNone] at hFollow
    | false =>
      have hFollow : world.follow found (Text.dottedParts (NamedType.ofClass k).name).tail
          = some ⟨.value (.cls k), last⟩ := by
        simpa [Option.filter, hNone] using hFollow
      rw [hFollow]
      rfl
  · obtain ⟨last, hFollow⟩ := hReachable
    rw [standing?_of_module hModule, hFollow]
    rfl

theorem IsPlain.isVisible (hPlain : world.IsPlain className imports owner) :
    world.IsVisible imports owner where
  unbound := fun hMem => hPlain.unbound (List.mem_append_left _ hMem)
  inPackage := fun module hModule => (hPlain.inPackage module hModule).2
  builtin := fun hModule => ⟨(hPlain.builtin hModule).1, (hPlain.builtin hModule).2.1⟩

/-- Where nothing hides it, the name that a class is written with means the class. -/
theorem globalObject_of_isPlain {k : ClassRef}
    (hPlain : world.IsPlain className imports (.ofClass k))
    (hImports : ∀ module ∈ (NamedType.ofClass k).module, module ∈ imports)
    (hReachable : world.IsReachable k) :
    world.globalObject imports (NamedType.ofClass k).qualifiedName = .ok (.value (.cls k)) :=
  (globalObject_of_isVisible hPlain.isVisible hImports _).2
    (standing?_of_isReachable hReachable fun hModule => (hPlain.builtin hModule).2.2)

/-! ## The look-up -/

/-- Whether a method with the name has been defined. -/
def Hides (defined : List DecoratedMethod) (name : String) : Prop :=
  ∃ m ∈ defined, m.name = name

theorem find?_eq_none_of_not_hides {defined : List DecoratedMethod} {name : String}
    (h : ¬ Hides defined name) : (defined.find? fun m => m.name == name) = none := by
  rw [List.find?_eq_none]
  exact fun m hMem hName => h ⟨m, hMem, beq_iff_eq.1 hName⟩

theorem isSome_find?_of_hides {defined : List DecoratedMethod} {name : String}
    (h : Hides defined name) : (defined.find? fun m => m.name == name).isSome = true := by
  obtain ⟨m, hMem, hName⟩ := h
  exact List.find?_isSome.2 ⟨m, hMem, beq_iff_eq.2 hName⟩

variable {defined : List DecoratedMethod} {method parameter : String}

theorem evalDefault_of_hidden
    (hUnchanged : ∀ part ∈ Text.dottedParts owner.qualifiedName, privateName className part = part)
    (hHidden : Hides defined owner.head) :
    world.evalDefault className imports defined (.declared owner method parameter)
      = .error (.missingAttribute owner.qualifiedName) := by
  have hSome := isSome_find?_of_hides hHidden
  unfold NamedType.head at hSome
  simp only [evalDefault, privatePath_eq hUnchanged, hSome, Bool.or_true, if_true]
  rfl

theorem evalDefault_of_clear {k : ClassRef}
    (hPlain : world.IsPlain className imports (.ofClass k))
    (hImports : ∀ module ∈ (NamedType.ofClass k).module, module ∈ imports)
    (hReachable : world.IsReachable k) (hClear : ¬ Hides defined (NamedType.ofClass k).head)
    (hOriginal : ¬ Hides defined "original_default") {v : Value}
    (hDeclared : world.declaredDefault k method parameter = .ok (some v)) :
    world.evalDefault className imports defined (.declared (.ofClass k) method parameter)
      = .ok v := by
  have hHead := find?_eq_none_of_not_hides hClear
  have hBody : bodyNames.contains (NamedType.ofClass k).head = false := by
    rw [← Bool.not_eq_true, List.contains_iff_mem]
    exact fun hMem => hPlain.unbound (List.mem_append_right _ hMem)
  unfold NamedType.head at hHead hBody
  simp only [evalDefault, privatePath_eq hPlain.unchanged, hHead, hBody,
    globalObject_of_isPlain hPlain hImports hReachable, find?_eq_none_of_not_hides hOriginal]
  show (do
    let v ← world.declaredDefault k method parameter
    return v.getD noDefault : Except Failure Value) = .ok v
  rw [hDeclared]
  rfl

/-- If a method is called like the function that is asked for default values, the look-up calls that
method: it fails, or yields a coroutine. -/
theorem evalDefault_of_replaced (hOriginal : Hides defined "original_default") {v : Value}
    (h : world.evalDefault className imports defined (.declared owner method parameter) = .ok v) :
    v = .object "coroutine" := by
  obtain ⟨m, hFound⟩ := Option.isSome_iff_exists.1 (isSome_find?_of_hides hOriginal)
  unfold evalDefault at h
  simp only [hFound] at h
  split at h
  next => cases h
  next =>
    obtain ⟨object, -, h⟩ := bind_eq_ok_iff.1 h
    split at h
    next =>
      split at h
      next =>
        cases h
        rfl
      next => cases h
    next => cases h

end World

/-! ## Methods before -/

namespace ClassSource

variable {world : World} {source : ClassSource}

theorem name_of_defineMethod {defined : List DecoratedMethod} {f : ForwardingMethod}
    {m : DecoratedMethod} (h : source.defineMethod world defined f = .ok m) :
    m.name = Text.normalForm f.name := by
  obtain ⟨evaluated, -, h⟩ := bind_eq_ok_iff.1 h
  cases h
  rfl

/-- The body of a class defines its methods under the normal forms of their names. -/
theorem names_of_defineMethods {defined all : List DecoratedMethod} {fs : List ForwardingMethod}
    (h : source.defineMethods world defined fs = .ok all) :
    all.map DecoratedMethod.name
      = defined.map DecoratedMethod.name ++ fs.map fun f => Text.normalForm f.name := by
  induction fs generalizing defined with
  | nil =>
    cases h
    rw [List.map_nil, List.append_nil]
  | cons f fs ih =>
    obtain ⟨m, hMethod, h⟩ := bind_eq_ok_iff.1 h
    rw [ih h, List.map_append, List.map_singleton, name_of_defineMethod hMethod, List.map_cons,
      List.append_assoc, List.singleton_append]

theorem hides_iff {defined : List DecoratedMethod} {before : List Method} {name : String}
    (h : source.defineMethods world [] (before.map Method.written) = .ok defined) :
    World.Hides defined name ↔ ∃ earlier ∈ before, Text.normalForm earlier.name = name := by
  have hNames := names_of_defineMethods h
  rw [List.map_nil, List.nil_append, List.map_map] at hNames
  have hMem : World.Hides defined name ↔ name ∈ defined.map DecoratedMethod.name := by
    rw [List.mem_map, World.Hides]
  rw [hMem, hNames, List.mem_map]
  exact Iff.rfl

end ClassSource

theorem Surface.exists_describes {world : World} {c : ClassRef} {target : Target}
    (h : world.introspect c = .ok target) {m : Method} (hMem : m ∈ target.methods) :
    ∃ entry ∈ world.surface c, entry.2.2.isMethod = true ∧ world.Describes entry m := by
  obtain ⟨entry, hEntry, hDescribes⟩ := exists_of_forall₂ (describes_methods h) hMem
  obtain ⟨hSurface, hKind⟩ := List.mem_filter.1 hEntry
  exact ⟨entry, hSurface, hKind, hDescribes⟩

theorem Target.mem_methods_of_forwarded {target : Target} {m : Method}
    (h : m ∈ target.forwarded) : m ∈ target.methods ∧ m.IsForwarded := by
  rw [forwarded, List.mem_filter] at h
  exact ⟨h.1, of_decide_eq_true h.2⟩

/-- The module of a class whose method is asked for a default value is imported. -/
theorem ClassSource.mem_importedNames {world : World} {target : Target} {className : String}
    {source : ClassSource} (hSource : ClassSource.of world target className = .ok source)
    {m : Method} (hForwarded : m ∈ target.forwarded) {p : Parameter} (hParameter : p ∈ m.parameters)
    {v : Value} (hDefault : p.default = some v) (hLiteral : v.isLiteral = false) {module : String}
    (hModule : m.declaring.module = some module) (hNormal : Text.normalForm module = module) :
    module ∈ source.importedNames := by
  have hImport : module ∈ source.imports := by
    rw [Target.written_eq hSource, Target.mem_imports_iff_uses]
    exact .default hForwarded hParameter hDefault hLiteral hModule
  exact List.mem_map.2 ⟨module, hImport, hNormal⟩

/-- In the body of a generated class, at any place behind the methods before it, the look-up of a
default value that is no literal yields the very value that introspection has recorded, if the
declaring class is reachable as itself, its name is plain, and no method that has been defined
before is called like the first part of that name or like the function that is asked. If one is
called like the first part, the look-up fails; if one is called like the function, it yields no
default value. -/
theorem default_looked_up (world : World) {c : ClassRef} {target : Target} {className : String}
    {source : ClassSource} (hRegular : world.IsRegular c)
    (hReachable : ∀ entry ∈ world.surface c,
      entry.2.2.isMethod = true → world.IsReachable entry.1)
    (hTarget : world.introspect c = .ok target)
    (hSource : ClassSource.of world target className = .ok source)
    {before after : List Method} {m : Method} (hForwarded : target.forwarded = before ++ m :: after)
    {defined : List DecoratedMethod}
    (hDefined : source.defineMethods world [] (before.map Method.written) = .ok defined)
    {p : Parameter} (hParameter : p ∈ m.parameters) {v : Value} (hDefault : p.default = some v)
    (hLiteral : v.isLiteral = false) (hOwn : m.name ∉ World.classOwnNames)
    (hPlain : world.IsPlain source.className source.importedNames m.declaring) :
    let result :=
      world.evalDefault source.className source.importedNames defined (DefaultExpr.of m p)
    ((∀ earlier ∈ before, Text.normalForm earlier.name ≠ m.declaring.head ∧
        Text.normalForm earlier.name ≠ "original_default") → result = .ok v) ∧
    ((∃ earlier ∈ before, Text.normalForm earlier.name = m.declaring.head) →
      result = .error (.missingAttribute m.declaring.qualifiedName)) ∧
    ((∃ earlier ∈ before, Text.normalForm earlier.name = "original_default") →
      ∀ w, result = .ok w → w = .object "coroutine") := by
  have hMem : m ∈ target.forwarded := by
    rw [hForwarded]
    exact List.mem_append_right _ List.mem_cons_self
  obtain ⟨hMethod, hIsForwarded⟩ := Target.mem_methods_of_forwarded hMem
  obtain ⟨entry, hEntry, hKind, hDescribes⟩ := Surface.exists_describes hTarget hMethod
  have hExpr : DefaultExpr.of m p = .declared m.declaring m.name p.name := by
    rw [DefaultExpr.of, hDefault, Option.getD_some, hLiteral]
    rfl
  intro result
  refine ⟨fun hClear => ?_, fun hHidden => ?_, fun hReplaced w hResult => ?_⟩
  · have hDeclared := World.declaredDefault_of_describes hRegular hEntry hDescribes
      hIsForwarded.2.1 hOwn hParameter hDefault
    have hImports : ∀ module ∈ m.declaring.module, module ∈ source.importedNames :=
      fun module hModule => ClassSource.mem_importedNames hSource hMem hParameter hDefault hLiteral
        hModule (hPlain.inPackage module hModule).1
    have hNotHidden : ¬ World.Hides defined m.declaring.head := by
      rw [ClassSource.hides_iff hDefined]
      rintro ⟨earlier, hBefore, hName⟩
      exact (hClear earlier hBefore).1 hName
    have hNotReplaced : ¬ World.Hides defined "original_default" := by
      rw [ClassSource.hides_iff hDefined]
      rintro ⟨earlier, hBefore, hName⟩
      exact (hClear earlier hBefore).2 hName
    simp only [result, hExpr]
    rw [hDescribes.declaring] at hPlain hImports hNotHidden ⊢
    exact World.evalDefault_of_clear hPlain hImports (hReachable entry hEntry hKind) hNotHidden
      hNotReplaced hDeclared
  · simp only [result, hExpr]
    exact World.evalDefault_of_hidden hPlain.unchanged
      ((ClassSource.hides_iff hDefined).2 hHidden)
  · simp only [result, hExpr] at hResult
    exact World.evalDefault_of_replaced ((ClassSource.hides_iff hDefined).2 hReplaced) hResult

namespace LookUp.Sample

def base : ClassRef := ⟨"b.c", "Base", 1, false⟩

def stack : ClassRef := ⟨"m", "Stack", 2, false⟩

def queue : ClassRef := ⟨"m", "Queue", 3, false⟩

def sentinel : Value := .object "missing"

def receiver : DeclaredParameter := ⟨"self", .positionalOrKeyword, none, none⟩

def counting : Routine := ⟨[receiver], none, "m", false, false, true, 1⟩

/-- A function with a default value that is no literal. -/
def adding : Routine :=
  ⟨[receiver, ⟨"item", .positionalOrKeyword, none, some sentinel⟩], none, "m", false, false, true,
    2⟩

/-- A class that inherits the method with the default value from a class of another package, and one
that has a method of the name of its own module. -/
def world : World where
  modules := [⟨"b", true, []⟩, ⟨"b.c", false, [("Base", .cls base)]⟩,
    ⟨"m", false, [("Stack", .cls stack), ("Queue", .cls queue)]⟩]
  classes := [
    { ref := base, name := "Base", bases := [.objectClass], resolution := [base, .objectClass]
      attributes := [("add", .function adding)] },
    { ref := stack, name := "Stack", bases := [base], resolution := [stack, base, .objectClass]
      attributes := [("count", .function counting)] },
    { ref := queue, name := "Queue", bases := [.objectClass], resolution := [queue, .objectClass]
      attributes := [("m", .function counting), ("add", .function adding)] }]
  memory := []

def item : Parameter := { name := "item", kind := .positionalOrKeyword, default := some sentinel }

def method (name : String) (c : ClassRef) (parent : Option NamedType := none)
    (parameters : List Parameter := []) : Method :=
  { name, declaring := .ofClass c, parent, parameters }

def count : Method := method "count" stack (some (.ofClass base))

def add : Method := method "add" base none [item]

def stackTarget : Target := ⟨"m", "Stack", [count, add]⟩

def queueTarget : Target := ⟨"m", "Queue", [method "m" queue, method "add" queue none [item]]⟩

end LookUp.Sample

open LookUp.Sample in
theorem default_looked_up_of_inherited :
    ∃ source defined, world.introspect stack = .ok stackTarget ∧
      ClassSource.of world stackTarget "mStackPersistent" = .ok source ∧
      source.defineMethods world [] [count.written] = .ok defined ∧
      world.evalDefault source.className source.importedNames defined (DefaultExpr.of add item)
        = .ok sentinel := by
  have hRegular : world.IsRegular stack := by
    constructor <;> decide
  have hReachable : ∀ entry ∈ world.surface stack,
      entry.2.2.isMethod = true → world.IsReachable entry.1 := by
    intro entry hMem _
    obtain rfl | rfl := List.mem_pair.1 hMem <;> exact ⟨_, rfl⟩
  have hPlain : ∀ imports, world.IsPlain "mStackPersistent" imports add.declaring := by
    intro imports
    refine ⟨by decide +kernel, by decide, fun module hModule => ?_, fun hNone => by cases hNone⟩
    obtain rfl : "b.c" = module := Option.some.inj hModule
    exact ⟨by decide +kernel, _, rfl⟩
  refine ⟨_, _, rfl, rfl, rfl, ?_⟩
  have hForwarded : stackTarget.forwarded = [count] ++ add :: [] := rfl
  refine (default_looked_up world hRegular hReachable rfl rfl hForwarded rfl
    (List.mem_singleton_self item) rfl rfl (by decide) (hPlain _)).1 ?_
  exact List.forall_mem_singleton.2 (by decide +kernel)

open LookUp.Sample in
/-- The name of the module means the method of that name, which has been defined before. -/
theorem default_not_looked_up :
    ∃ source defined, world.introspect queue = .ok queueTarget ∧
      (∀ entry ∈ world.surface queue, world.IsReachable entry.1) ∧
      ClassSource.of world queueTarget "mQueuePersistent" = .ok source ∧
      item.default = some sentinel ∧ sentinel.isLiteral = false ∧
      queueTarget.forwarded = [method "m" queue, method "add" queue none [item]] ∧
      source.defineMethods world [] [(method "m" queue).written] = .ok defined ∧
      ∀ v, world.evalDefault source.className source.importedNames defined
        (DefaultExpr.of (method "add" queue none [item]) item) ≠ .ok v := by
  refine ⟨_, _, rfl, ?_, rfl, rfl, rfl, rfl, rfl, fun v hResult => ?_⟩
  · intro entry hMem
    obtain rfl | rfl := List.mem_pair.1 hMem <;> exact ⟨_, rfl⟩
  · have hHidden : World.Hides [⟨"m", false, true, [⟨"self", .positionalOrKeyword, none⟩], []⟩]
        (NamedType.ofClass queue).head := ⟨_, List.mem_singleton_self _, rfl⟩
    have hUnchanged : ∀ part ∈ Text.dottedParts (NamedType.ofClass queue).qualifiedName,
        privateName "mQueuePersistent" part = part := by
      decide +kernel
    exact nomatch (World.evalDefault_of_hidden hUnchanged hHidden).symm.trans hResult

end Interpose

import Interpose.Proofs.Conversion.Derivations
import Interpose.Proofs.LiveHint.Converted
import Interpose.Proofs.NullableHint
import Interpose.Proofs.Rendering.LookUp
import Interpose.Proofs.Rendering.Refusal

/-! # Names of classes

A class in an annotation is known by its module and its qualified name alone, and these decide what
is written for it. So its name means whatever stands there: the class itself only if it is found
there as itself. A class is refused exactly if nothing stands there that a hint can name; one of the
builtins is never refused. A class that is called like one of the relative names is taken for it.
-/
namespace Interpose

set_option autoImplicit false

open Sequence

/-! ## Classes in annotations -/

inductive Value.Mentions (c : ClassRef) : Value → Prop where
  | here : Mentions c (.cls c)
  | item {items : List Value} {v : Value} (hMem : v ∈ items) (h : Mentions c v) :
      Mentions c (.list items)

/-- Whether a class itself, and not a text that names it, stands somewhere in an annotation. -/
inductive Object.Mentions (c : ClassRef) : Object → Prop where
  | value {v : Value} (h : v.Mentions c) : Mentions c (.value v)
  | member {typed : Bool} {members : List Object} {object : Object} (hMem : object ∈ members)
      (h : Mentions c object) : Mentions c (.union typed members)
  | base {base : Object} {notes : List Object} (h : Mentions c base) :
      Mentions c (.annotated base notes)
  | origin {typed : Bool} {origin : Object} {arguments : List Object} (h : Mentions c origin) :
      Mentions c (.generic typed origin arguments)
  | argument {typed : Bool} {origin : Object} {arguments : List Object} {object : Object}
      (hMem : object ∈ arguments) (h : Mentions c object) :
      Mentions c (.generic typed origin arguments)
  | item {items : List Object} {object : Object} (hMem : object ∈ items) (h : Mentions c object) :
      Mentions c (.list items)

namespace TypeExpr

/-- Whether a name stands in a type, nullable or not. -/
def HasName (name : NamedType) (t : TypeExpr) : Prop :=
  ∃ n ∈ t.names, n.unmarked = name

theorem mem_allNames {ts : List TypeExpr} {n : NamedType} :
    n ∈ allNames ts ↔ ∃ t ∈ ts, n ∈ t.names := by
  induction ts with
  | nil => simp [allNames]
  | cons t ts ih => simp [allNames, ih]

theorem exists_mem_allNames {name : NamedType} {t : TypeExpr} {ts : List TypeExpr}
    (h : t.HasName name) (hMem : t ∈ ts) : ∃ n ∈ allNames ts, n.unmarked = name := by
  obtain ⟨n, hn, hName⟩ := h
  exact ⟨n, mem_allNames.2 ⟨t, hMem, hn⟩, hName⟩

/-- Of the members of a union, only `None` can be left out. -/
theorem HasName.unite {name : NamedType} {t : TypeExpr} {members : List TypeExpr}
    (h : t.HasName name) (hMem : t ∈ members) (hNone : name ≠ .none) :
    (TypeExpr.unite members).HasName name := by
  have hUnion : (TypeExpr.union members).HasName name := exists_mem_allNames h hMem
  unfold TypeExpr.unite
  split
  next member =>
    obtain rfl := List.mem_singleton.1 hMem
    exact h
  next a b =>
    have hSome : t.isNone = false := by
      cases t with
      | named n =>
        obtain ⟨_, hn, rfl⟩ := h
        obtain rfl := List.mem_singleton.1 hn
        exact decide_eq_false fun hEq => hNone (by rw [hEq]; rfl)
      | _ => rfl
    have hKept : t ∈ [a, b].filter (!·.isNone) := List.mem_filter.2 ⟨hMem, by rw [hSome]; rfl⟩
    split
    next n hFilter =>
      obtain rfl := List.mem_singleton.1 (hFilter ▸ hKept)
      obtain ⟨_, hn, rfl⟩ := h
      obtain rfl := List.mem_singleton.1 hn
      exact ⟨_, List.mem_cons_self, rfl⟩
    next origin arguments isNullable hFilter =>
      obtain rfl := List.mem_singleton.1 (hFilter ▸ hKept)
      exact h
    next => exact hUnion
  next => exact hUnion

end TypeExpr

open Conversion

section Conversion

variable {ns : Namespace} {c : ClassRef} {t : TypeExpr}

theorem eq_named_of_classType (hAny : c ≠ ClassRef.anyClass) (h : classType c = .ok t) :
    t = .named (.ofClass c) := by
  rw [classType, if_neg hAny] at h
  split at h
  · cases h
  · cases h
    rfl

theorem unmarked_ofClass (c : ClassRef) :
    (NamedType.ofClass c).unmarked = NamedType.ofClass c := by
  unfold NamedType.ofClass
  split
  · rfl
  · split <;> rfl

theorem exists_part {α : Type} {parts : List (α × TypeExpr)} {x : α}
    (h : x ∈ parts.map Prod.fst) : ∃ type, (x, type) ∈ parts := by
  obtain ⟨⟨_, type⟩, hPart, rfl⟩ := List.mem_map.1 h
  exact ⟨type, hPart⟩

theorem Value.Mentions.hasName {v : Value} (h : v.Mentions c) (hAny : c ≠ ClassRef.anyClass)
    (hConverts : Converts ns (.value v) t) : t.HasName (.ofClass c) := by
  induction h generalizing t with
  | here =>
    cases hConverts with
    | valueText hText => cases hText
    | cls hType =>
      rw [eq_named_of_classType hAny hType]
      exact ⟨_, List.mem_cons_self, unmarked_ofClass c⟩
  | item hMem _ ih =>
    cases hConverts with
    | valueText hText => cases hText
    | valueItems hParts =>
      obtain ⟨type, hPart⟩ := exists_part hMem
      exact TypeExpr.exists_mem_allNames (ih (hParts _ hPart)) (List.mem_map_of_mem hPart)

/-- The type that an annotation is converted to has the name of each class in the annotation. -/
theorem Object.Mentions.hasName {o : Object} (h : o.Mentions c) (hAny : c ≠ ClassRef.anyClass)
    (hNone : NamedType.ofClass c ≠ .none) (hConverts : Converts ns (.object o) t) :
    t.HasName (.ofClass c) := by
  induction h generalizing t with
  | value h =>
    cases hConverts with
    | value hValue => exact h.hasName hAny hValue
  | member hMem _ ih =>
    cases hConverts with
    | alternatives hParts =>
      obtain ⟨type, hPart⟩ := exists_part hMem
      exact (ih (hParts _ hPart)).unite (List.mem_map_of_mem hPart) hNone
  | base _ ih =>
    cases hConverts with
    | base hBase => exact ih hBase
  | origin _ ih =>
    cases hConverts with
    | bare hOrigin => exact ih hOrigin
    | generic hOrigin =>
      obtain ⟨n, hn, hName⟩ := ih hOrigin
      obtain rfl := List.mem_singleton.1 hn
      exact ⟨n, List.mem_cons_self, hName⟩
  | argument hMem _ ih =>
    cases hConverts with
    | bare => cases hMem
    | generic _ _ hParts =>
      obtain ⟨type, hPart⟩ := exists_part hMem
      obtain ⟨n, hn, hName⟩ :=
        TypeExpr.exists_mem_allNames (ih (hParts _ hPart)) (List.mem_map_of_mem hPart)
      exact ⟨n, List.mem_cons_of_mem _ hn, hName⟩
  | item hMem _ ih =>
    cases hConverts with
    | items hParts =>
      obtain ⟨type, hPart⟩ := exists_part hMem
      exact TypeExpr.exists_mem_allNames (ih (hParts _ hPart)) (List.mem_map_of_mem hPart)

end Conversion

/-! ## Their names -/

namespace World

variable (world : World)

/-- Whether something stands under the name of a named type that a hint can name, or the name is
that of a builtin. -/
inductive Offers (t : NamedType) : Prop
  | builtin (isBuiltin : t.isBuiltin = true)
  | stands {module : String} (isIn : t.module = some module)
      (isImported : world.importModule module = .ok ()) {object : Object}
      (isThere : world.standing? t = some object) (isType : isTypeObject object = true)

/-- Whether the name of a named type is a dotted name that reads as itself, and nothing hides what
it means. -/
structure IsPlainName (imports : List String) (t : NamedType) : Prop where
  isName : isDottedPath t.qualifiedName = true
  isNormal : Text.normalForm t.qualifiedName = t.qualifiedName
  inNormalModule : ∀ module ∈ t.module, Text.normalForm module = module
  isVisible : world.IsVisible imports t

variable {world}

theorem typeExists_eq_true_iff {t : NamedType} (hBuiltin : t.isBuiltin = false) :
    world.typeExists t.module t.name = .ok true ↔ world.Offers t := by
  constructor
  · intro h
    cases hModule : t.module with
    | none =>
      rw [hModule] at h
      cases h
    | some module =>
      have hStanding : world.standing? t = _ := standing?_of_module hModule
      rw [hModule, typeExists] at h
      cases hImport : world.importModule module with
      | error failure =>
        rw [hImport] at h
        dsimp only at h
        split at h <;> cases h
      | ok =>
        rw [hImport] at h
        dsimp only at h
        cases hFollow : world.follow ⟨.module module, none⟩ (Text.dottedParts t.name) with
        | none =>
          rw [hFollow] at h
          cases h
        | some found =>
          rw [hFollow] at h hStanding
          exact .stands hModule hImport hStanding (Except.ok.inj h)
  · rintro (hOwn | ⟨hModule, hImport, hStanding, hType⟩)
    · exact absurd (hBuiltin.symm.trans hOwn) Bool.false_ne_true
    · rw [standing?_of_module hModule] at hStanding
      obtain ⟨found, hFollow, rfl⟩ := Option.map_eq_some_iff.1 hStanding
      rw [hModule, typeExists]
      simp only [hImport, hFollow, hType]

end World

namespace Hint

variable {world : World} {site : HintSite} {t : NamedType}

theorem nameOf_of_absolute (h : t.name ∉ relativeNames) :
    nameOf world site t =
      if t.isBuiltin then .ok ⟨t.name, []⟩
      else world.typeExists t.module t.name >>= fun found =>
        if found then .ok t.qualified else .error site.invalid := by
  simp only [relativeNames, List.mem_cons, List.not_mem_nil, or_false, not_or] at h
  obtain ⟨hSelf, hParent, hStatic⟩ := h
  have hResolve : site.resolve t = .ok t := by
    rw [HintSite.resolve, if_neg hSelf, if_neg hParent]
  rw [nameOf_world, hResolve]
  exact if_neg hStatic

/-- A name that is not relative is written if something is offered under it. -/
theorem nameOf_eq_ok_iff (h : t.name ∉ relativeNames)
    (hBuiltin : t.isBuiltin = true → t.module = none) {r : Rendered} :
    nameOf world site t = .ok r ↔ world.Offers t ∧ r = t.qualified := by
  rw [nameOf_of_absolute h]
  cases hKind : t.isBuiltin with
  | true =>
    have hQualified : t.qualified = ⟨t.name, []⟩ := by
      rw [NamedType.qualified, NamedType.qualifiedName, hBuiltin hKind]
      rfl
    rw [if_pos rfl, Except.ok.injEq, hQualified, eq_comm, and_iff_right (.builtin hKind)]
  | false =>
    rw [if_neg Bool.false_ne_true, bind_eq_ok_iff, ← World.typeExists_eq_true_iff hKind]
    constructor
    · rintro ⟨found, hExists, hWritten⟩
      cases found with
      | true => exact ⟨hExists, (Except.ok.inj hWritten).symm⟩
      | false => cases hWritten
    · rintro ⟨hExists, rfl⟩
      exact ⟨true, hExists, rfl⟩

/-- A name under which nothing is offered is refused. -/
theorem nameOf_of_not_offers (h : t.name ∉ relativeNames) (hImportable : t.IsImportable)
    (hNone : ¬ world.Offers t) : nameOf world site t = .error site.invalid := by
  rw [nameOf_of_absolute h]
  cases hKind : t.isBuiltin with
  | true => exact absurd (.builtin hKind) hNone
  | false =>
    rw [← World.typeExists_eq_true_iff hKind] at hNone
    obtain ⟨found, hExists⟩ := world.exists_typeExists hImportable
    cases found with
    | true => exact absurd hExists hNone
    | false =>
      rw [hExists]
      rfl

/-- A name that is called like a relative one is written as that one is. -/
theorem nameOf_of_relative (h : t.name ∈ relativeNames) :
    nameOf world site t = nameOf world site (.unresolved t.name) := by
  have hResolve : site.resolve t = site.resolve (.unresolved t.name) ∨ t.name = "static" := by
    simp only [relativeNames, List.mem_cons, List.not_mem_nil, or_false] at h
    obtain hSelf | hParent | hStatic := h
    · exact .inl (by simp [HintSite.resolve, NamedType.unresolved, hSelf])
    · exact .inl (by simp [HintSite.resolve, NamedType.unresolved, hParent])
    · exact .inr hStatic
  obtain hSame | hStatic := hResolve
  · rw [nameOf_world, nameOf_world, hSame]
    rfl
  · simp [nameOf_world, HintSite.resolve, NamedType.unresolved, hStatic]
    rfl

end Hint

namespace NamedType

theorem name_ofClass {c : ClassRef} (hNone : ofClass c ≠ .none) :
    (ofClass c).name = c.qualname := by
  unfold ofClass at hNone ⊢
  split
  next h => exact absurd (if_pos h) hNone
  next => split <;> rfl

theorem module_of_builtin {c : ClassRef} (h : (ofClass c).isBuiltin = true) :
    (ofClass c).module = Option.none := by
  by_cases hClass : c = ClassRef.noneClass
  · rw [ofClass, if_pos hClass]
    rfl
  · by_cases hOwn : c.module = "builtins"
    · rw [ofClass, if_neg hClass, if_pos hOwn]
      rfl
    · rw [ofClass, if_neg hClass, if_neg hOwn] at h
      cases h

end NamedType

open Hint in
theorem text_piece_of_nameOf {world : World} {site : HintSite} {t : NamedType} {r : Rendered}
    (h : nameOf world site t = .ok r) : (site.piece t).text = r.text := by
  rw [nameOf_eq_write h]
  simp [Piece.write]

/-- The module of a class whose name is written is imported. -/
theorem module_mem_importedNames {world : World} {target : Target} {className : String}
    {source : ClassSource} (hSource : ClassSource.of world target className = .ok source)
    {site : HintSite} {n : NamedType} (hWritten : (site, n) ∈ namesOf target.hints)
    (hAbsolute : n.name ∉ relativeNames) (hBuiltin : n.isBuiltin = true → n.module = none)
    {module : String} (hModule : n.module = some module)
    (hNormal : Text.normalForm module = module) : module ∈ source.importedNames := by
  simp only [relativeNames, List.mem_cons, List.not_mem_nil, or_false, not_or] at hAbsolute
  obtain ⟨hSelf, hParent, hStatic⟩ := hAbsolute
  have hResolve : site.resolve n = .ok n := by
    rw [HintSite.resolve, if_neg hSelf, if_neg hParent]
  have hOther : n.isBuiltin = false := by
    rw [← Bool.not_eq_true]
    intro hKind
    cases (hBuiltin hKind).symm.trans hModule
  have hImport : module ∈ source.imports := by
    rw [Target.written_eq hSource, Target.mem_imports_iff_uses]
    exact .hint hWritten hResolve hStatic hOther hModule
  exact List.mem_map.2 ⟨module, hImport, hNormal⟩

open Hint in
/-- A class in an annotation of a hint has a name there. If the class is called like a relative
name, this name is written as the relative one. Otherwise it is refused if nothing is offered under
the module and the name of the class, and in a module that is written it means, as long as nothing
hides it, what stands there. -/
theorem class_name_means_what_stands (world : World) (target : Target)
    {hint : HintSite × TypeExpr} (hHint : hint ∈ target.hints) {ns : Namespace} {o : Object}
    (hType : o.toType ns = .ok hint.2) {c : ClassRef} (hMentions : o.Mentions c)
    (hAny : c ≠ ClassRef.anyClass) (hNone : NamedType.ofClass c ≠ .none) :
    ∃ n, (hint.1, n) ∈ namesOf target.hints ∧ n.unmarked = .ofClass c ∧
      (c.qualname ∈ relativeNames →
        nameOf world hint.1 n = nameOf world hint.1 (.unresolved c.qualname)) ∧
      (c.qualname ∉ relativeNames →
        (¬ world.Offers (.ofClass c) → (NamedType.ofClass c).IsImportable →
          nameOf world hint.1 n = .error hint.1.invalid ∧
            ∀ className source, ClassSource.of world target className ≠ .ok source) ∧
        ∀ className source, ClassSource.of world target className = .ok source →
          world.Offers (.ofClass c) ∧
            (world.IsPlainName source.importedNames (.ofClass c) →
              isDottedPath (hint.1.piece n).text = true ∧
                ∀ object, world.globalObject source.importedNames
                    (Text.normalForm (hint.1.piece n).text) = .ok object ↔
                  world.standing? (.ofClass c) = some object)) := by
  obtain ⟨n, hn, hUnmarked⟩ := hMentions.hasName hAny hNone (converts_ofObject _ _ hType)
  have hWritten : (hint.1, n) ∈ namesOf target.hints := mem_namesOf.2 ⟨hint, hHint, rfl, hn⟩
  have hNameOf : nameOf world hint.1 n = nameOf world hint.1 (.ofClass c) := by
    rw [← hUnmarked, nameOf_unmarked]
  have hName : (NamedType.ofClass c).name = c.qualname := NamedType.name_ofClass hNone
  refine ⟨n, hWritten, hUnmarked, fun hRelative => ?_, fun hAbsolute => ⟨?_, ?_⟩⟩
  · rw [hNameOf, nameOf_of_relative (hName ▸ hRelative), hName]
  · intro hNothing hImportable
    have hRefused : nameOf world hint.1 n = .error hint.1.invalid := by
      rw [hNameOf, nameOf_of_not_offers (hName ▸ hAbsolute) hImportable hNothing]
    refine ⟨hRefused, fun className source hSource => ?_⟩
    obtain ⟨r, hFound⟩ := nameOf_of_classSource hSource hWritten
    exact nomatch hRefused.symm.trans hFound
  · intro className source hSource
    obtain ⟨r, hFound⟩ := nameOf_of_classSource hSource hWritten
    obtain ⟨hOffers, rfl⟩ := (nameOf_eq_ok_iff (hName ▸ hAbsolute)
      NamedType.module_of_builtin).1 (hNameOf.symm.trans hFound)
    have hText : (hint.1.piece n).text = (NamedType.ofClass c).qualifiedName :=
      text_piece_of_nameOf hFound
    refine ⟨hOffers, fun hPlain => ?_⟩
    have hImports : ∀ module ∈ (NamedType.ofClass c).module, module ∈ source.importedNames := by
      intro module hModule
      have hNormal := hPlain.inNormalModule module hModule
      rw [← hUnmarked] at hModule hName
      refine module_mem_importedNames hSource hWritten (hName ▸ hAbsolute) (fun hBuiltin => ?_)
        hModule hNormal
      have hOwn : (NamedType.ofClass c).isBuiltin = true := hUnmarked ▸ hBuiltin
      have := NamedType.module_of_builtin hOwn
      rwa [← hUnmarked] at this
    rw [hText, hPlain.isNormal]
    exact ⟨hPlain.isName, World.globalObject_of_isVisible hPlain.isVisible hImports⟩

namespace ClassNames.Sample

def record : ClassRef := ⟨"m", "Record", 1, false⟩

def item : ClassRef := ⟨"m", "Item", 2, false⟩

/-- A class whose name in its module has been bound to another class of the same name. -/
def former : ClassRef := ⟨"m", "Entry", 3, false⟩

def entry : ClassRef := ⟨"m", "Entry", 4, false⟩

def shelf : ClassRef := ⟨"m", "static", 5, false⟩

/-- The class of functions, which counts as a builtin, but is not bound there. -/
def function : ClassRef := .builtin "function"

def world : World where
  modules := [
    ⟨"builtins", false, [("dict", .cls (.builtin "dict")), ("str", .cls (.builtin "str"))]⟩,
    ⟨"m", false, [("Record", .cls record), ("Item", .cls item), ("Former", .cls former),
      ("Entry", .cls entry), ("static", .cls shelf)]⟩,
    ⟨"types", false, [("FunctionType", .cls function)]⟩]
  classes := []
  memory := []

def items : Object := .generic false (.cls (.builtin "dict")) [.cls (.builtin "str"), .cls item]

def itemsType : TypeExpr :=
  .generic (.builtin "dict") [.named (.builtin "str"), .named (.ofClass item)] false

def parameter (name : String) (type : TypeExpr) : Parameter :=
  { name, kind := .positionalOrKeyword, type := some type }

def method (name : String) (parameters : List Parameter) : Method :=
  { name, declaring := .ofClass record, parameters }

def add : Method := method "add" [parameter "items" itemsType]

def put : Method :=
  method "put" [parameter "entry" (.named (.ofClass former)),
    parameter "shelf" (.named (.ofClass shelf)), parameter "key" (.named (.ofClass function))]

def target : Target := ⟨"m", "Record", [add, put]⟩

end ClassNames.Sample

open ClassNames.Sample Conversion in
theorem class_name_means_what_stands_of_argument :
    ∃ source n, ClassSource.of world target "mRecordPersistent" = .ok source ∧
      n.unmarked = .ofClass item ∧
      world.globalObject source.importedNames
          (Text.normalForm ((HintSite.mk add (some (parameter "items" itemsType))).piece n).text)
        = .ok (.cls item) := by
  have hHint : (HintSite.mk add (some (parameter "items" itemsType)), itemsType) ∈ target.hints :=
    List.mem_cons_self
  have hType : items.toType (world.namespaceOf "m") = .ok itemsType := by
    rw [Object.toType, items, ofObject_generic (ofObject_cls _) (List.cons_ne_nil _ _), ofObjects,
      ofObjects, ofObjects, ofObject_cls, ofObject_cls]
    rfl
  have hMentions : items.Mentions item :=
    .argument (List.mem_cons_of_mem _ List.mem_cons_self) (.value .here)
  have hSource : ClassSource.of world target "mRecordPersistent"
      = .ok (target.written "mRecordPersistent") := rfl
  have hImports : (target.written "mRecordPersistent").importedNames = ["m"] := by
    decide +kernel
  obtain ⟨n, -, hUnmarked, -, hAbsolute⟩ := class_name_means_what_stands world target hHint
    hType hMentions (by decide) (by decide)
  obtain ⟨-, hMeans⟩ := (hAbsolute (by decide)).2 _ _ hSource
  have hPlain : world.IsPlainName (target.written "mRecordPersistent").importedNames
      (.ofClass item) := by
    rw [hImports]
    refine ⟨by decide +kernel, by decide +kernel, by decide +kernel, by decide, ?_, ?_⟩
    · rintro module ⟨⟩
      exact ⟨_, rfl⟩
    · rintro ⟨⟩
  exact ⟨_, n, hSource, hUnmarked, ((hMeans hPlain).2 _).2 rfl⟩

open ClassNames.Sample in
/-- The name of a class that its module no longer has under this name means the class that has
taken its place; a class called `static` is written as the class of the receiver; and a class that
only counts as a builtin is written although nothing has its name. -/
theorem class_name_means_other :
    (∀ c ∈ [former, shelf, function], ∀ ns,
      (Object.cls c).toType ns = .ok (.named (.ofClass c))) ∧
    ∃ source, ClassSource.of world target "mRecordPersistent" = .ok source ∧
      put.written.declaration.map DeclItem.text
        = ["self", "entry: m.Entry", "shelf: Self", "key: function"] ∧
      world.globalObject source.importedNames "m.Entry" = .ok (.cls entry) ∧ entry ≠ former ∧
      world.globalObject source.importedNames "function" = .error (.unknownName "function") := by
  have hImports : (target.written "mRecordPersistent").importedNames = ["m"] := by
    decide +kernel
  refine ⟨fun c hMem ns => ?_, _, rfl, rfl, ?_, by decide, ?_⟩
  · rw [Object.toType, Conversion.ofObject_cls]
    simp only [List.mem_cons, List.not_mem_nil, or_false] at hMem
    obtain rfl | rfl | rfl := hMem <;> rfl
  · show world.globalObject (target.written "mRecordPersistent").importedNames _ = _
    rw [hImports]
    rfl
  · show world.globalObject (target.written "mRecordPersistent").importedNames _ = _
    rw [hImports]
    rfl

end Interpose

import Interpose.Proofs.Rendering.Factoring

/-! # Nullable types and default values

A default value other than `None` takes the marks of nullable types away at the top of a hint: that
of the type itself or, of a union or an intersection, those of its members. Below that, in what a
generic type or a list is made of, every mark stays. At any other place every mark is written, so
the hint is longer by one alternative for each of them. Only `Any` is never marked.
-/
namespace Interpose

set_option autoImplicit false

open Sequence

/-! ## Types without marks -/

def NamedType.unmarked (t : NamedType) : NamedType :=
  { t with isNullable := false }

namespace TypeExpr

mutual

/-- The type without the marks at its top. -/
def topCleared : TypeExpr → TypeExpr
  | .named t => .named t.unmarked
  | .union members => .union (allTopCleared members)
  | .intersection members => .intersection (allTopCleared members)
  | .generic origin arguments _ => .generic origin arguments false
  | .list items => .list items
  | .literal v => .literal v

def allTopCleared : List TypeExpr → List TypeExpr
  | [] => []
  | t :: ts => topCleared t :: allTopCleared ts

end

mutual

/-- The type without any marks. -/
def unmarked : TypeExpr → TypeExpr
  | .named t => .named t.unmarked
  | .union members => .union (allUnmarked members)
  | .intersection members => .intersection (allUnmarked members)
  | .generic origin arguments _ => .generic origin.unmarked (allUnmarked arguments) false
  | .list items => .list (allUnmarked items)
  | .literal v => .literal v

def allUnmarked : List TypeExpr → List TypeExpr
  | [] => []
  | t :: ts => unmarked t :: allUnmarked ts

end

/-- The alternative that stands for a mark. -/
def noneMark : String := " | None"

def markedIf (isNullable : Bool) (text : String) : String :=
  if isNullable then text ++ noneMark else text

def markedName (name : NamedType → String) (t : NamedType) : String :=
  markedIf (t.isNullable && name t != "Any") (name t)

mutual

/-- The text of a type with all its marks, given how names are written. -/
def markedText (name : NamedType → String) : TypeExpr → String
  | .named t => markedName name t
  | .union members => " | ".intercalate (markedTexts name members)
  | .intersection members => " & ".intercalate (markedTexts name members)
  | .generic origin arguments isNullable =>
    markedIf isNullable
      (markedName name origin ++ "[" ++ ", ".intercalate (markedTexts name arguments) ++ "]")
  | .list items => "[" ++ ", ".intercalate (markedTexts name items) ++ "]"
  | .literal v => v.text

def markedTexts (name : NamedType → String) : List TypeExpr → List String
  | [] => []
  | t :: ts => markedText name t :: markedTexts name ts

end

mutual

/-- The number of marks in a type, but for those of names that are written `Any`. -/
def markCount (name : NamedType → String) : TypeExpr → Nat
  | .named t => (t.isNullable && name t != "Any").toNat
  | .union members | .intersection members | .list members => markCounts name members
  | .generic origin arguments isNullable =>
    (origin.isNullable && name origin != "Any").toNat + markCounts name arguments
      + isNullable.toNat
  | .literal _ => 0

def markCounts (name : NamedType → String) : List TypeExpr → Nat
  | [] => 0
  | t :: ts => markCount name t + markCounts name ts

end

/-! ## Names -/

mutual

theorem names_unmarked (t : TypeExpr) : t.unmarked.names = t.names.map NamedType.unmarked := by
  cases t with
  | named | literal => rfl
  | union members | intersection members | list members => exact allNames_allUnmarked members
  | generic origin arguments isNullable =>
    exact congrArg (origin.unmarked :: ·) (allNames_allUnmarked arguments)

theorem allNames_allUnmarked (ts : List TypeExpr) :
    allNames (allUnmarked ts) = (allNames ts).map NamedType.unmarked := by
  cases ts with
  | nil => rfl
  | cons t ts =>
    rw [allUnmarked, allNames, allNames, List.map_append, names_unmarked, allNames_allUnmarked]

end

mutual

theorem unmarked_topCleared (t : TypeExpr) : t.topCleared.unmarked = t.unmarked := by
  cases t with
  | named | literal | list | generic => rfl
  | union members => exact congrArg union (allUnmarked_allTopCleared members)
  | intersection members => exact congrArg intersection (allUnmarked_allTopCleared members)

theorem allUnmarked_allTopCleared (ts : List TypeExpr) :
    allUnmarked (allTopCleared ts) = allUnmarked ts := by
  cases ts with
  | nil => rfl
  | cons t ts =>
    rw [allTopCleared, allUnmarked, allUnmarked, unmarked_topCleared, allUnmarked_allTopCleared]

end

end TypeExpr

/-- A mark does not matter to what a name refers to: only a type that is no relative name, and so
refers to itself, keeps it. -/
theorem HintSite.resolve_unmarked (site : HintSite) (t : NamedType) :
    site.resolve t.unmarked = site.resolve t ∨
      site.resolve t.unmarked = .ok t.unmarked ∧ site.resolve t = .ok t := by
  have hName : t.unmarked.name = t.name := rfl
  rw [resolve, resolve, hName]
  by_cases hSelf : t.name = "self"
  · exact .inl (by rw [if_pos hSelf, if_pos hSelf])
  by_cases hParent : t.name = "parent"
  · exact .inl (by rw [if_neg hSelf, if_neg hSelf, if_pos hParent, if_pos hParent])
  · refine .inr ⟨?_, ?_⟩ <;> rw [if_neg hSelf, if_neg hParent]

namespace Hint

variable {world : World} {site site' : HintSite}

/-- The modules that are recorded while names are written, up to the first that cannot be. -/
def recorded (world : World) (site : HintSite) : List NamedType → List String
  | [] => []
  | t :: ts =>
    match nameOf world site t with
    | .ok name => name.modules ++ recorded world site ts
    | .error _ => []

/-- The name of a type does not depend on its mark. -/
theorem nameOf_unmarked (t : NamedType) :
    nameOf world site t.unmarked = nameOf world site t := by
  rcases site.resolve_unmarked t with hSame | ⟨hBare, hMarked⟩
  · rw [nameOf_world, nameOf_world, hSame]
    rfl
  · rw [nameOf_world, nameOf_world, hBare, hMarked]
    rfl

theorem recorded_unmarked (ts : List NamedType) :
    recorded world site (ts.map NamedType.unmarked) = recorded world site ts := by
  induction ts with
  | nil => rfl
  | cons t ts ih => rw [List.map_cons, recorded, recorded, nameOf_unmarked, ih]

/-- Two sites of one method write names alike, unless they are blamed differently. -/
theorem nameOf_congr (hMethod : site'.method = site.method)
    (hInvalid : site'.invalid = site.invalid) (t : NamedType) :
    nameOf world site' t = nameOf world site t := by
  have hResolve : site'.resolve t = site.resolve t := by
    rw [HintSite.resolve, HintSite.resolve, hMethod]
  rw [nameOf_world, nameOf_world, hResolve, hInvalid]

theorem recorded_congr (h : ∀ t, nameOf world site' t = nameOf world site t)
    (ts : List NamedType) : recorded world site' ts = recorded world site ts := by
  induction ts with
  | nil => rfl
  | cons t ts ih => rw [recorded, recorded, h, ih]

theorem modules_ofNamed {top : Bool} {t : NamedType} {r : Rendered}
    (h : ofNamed world site top t = .ok r) :
    ∃ name, nameOf world site t = .ok name ∧ r.modules = name.modules := by
  obtain ⟨name, hName, h⟩ := bind_eq_ok_iff.1 h
  refine ⟨name, hName, ?_⟩
  split at h <;> cases h <;> rfl

mutual

/-- What is recorded for a hint that is written are its modules; further names come after it. -/
theorem recorded_ofType {top : Bool} (t : TypeExpr) {r : Rendered}
    (h : ofType world site top t = .ok r) (others : List NamedType) :
    recorded world site (t.names ++ others) = r.modules ++ recorded world site others := by
  cases t with
  | named t =>
    obtain ⟨name, hName, hModules⟩ := modules_ofNamed h
    rw [TypeExpr.names, List.singleton_append, recorded, hName, hModules]
  | literal v =>
    cases h
    rfl
  | union members | intersection members | list members =>
    obtain ⟨parts, hParts, ⟨⟩⟩ := bind_eq_ok_iff.1 h
    exact recorded_ofTypes members hParts others
  | generic origin arguments isNullable =>
    obtain ⟨name, hName, h⟩ := bind_eq_ok_iff.1 h
    obtain ⟨parts, hParts, ⟨⟩⟩ := bind_eq_ok_iff.1 h
    obtain ⟨written, hWritten, hModules⟩ := modules_ofNamed hName
    rw [TypeExpr.names, List.cons_append, recorded, hWritten]
    dsimp only
    rw [recorded_ofTypes arguments hParts others, hModules, List.append_assoc]
    rfl

theorem recorded_ofTypes {top : Bool} (ts : List TypeExpr) {parts : List Rendered}
    (h : ofTypes world site top ts = .ok parts) (others : List NamedType) :
    recorded world site (TypeExpr.allNames ts ++ others)
      = parts.flatMap Rendered.modules ++ recorded world site others := by
  cases ts with
  | nil =>
    cases h
    rfl
  | cons t ts =>
    obtain ⟨part, hPart, h⟩ := bind_eq_ok_iff.1 h
    obtain ⟨parts, hParts, ⟨⟩⟩ := bind_eq_ok_iff.1 h
    rw [TypeExpr.allNames, List.append_assoc, recorded_ofType t hPart, recorded_ofTypes ts hParts,
      List.flatMap_cons, List.append_assoc]

end

/-! ## The marks that are taken away -/

theorem hidesNullable_below (site : HintSite) : site.hidesNullable false = false := by
  unfold HintSite.hidesNullable
  split <;> rfl

theorem ofNamed_congr {top : Bool} (hNames : ∀ t, nameOf world site' t = nameOf world site t)
    (hHides : site'.hidesNullable top = site.hidesNullable top) (t : NamedType) :
    ofNamed world site' top t = ofNamed world site top t := by
  simp only [ofNamed, hNames, HintSite.mark, hHides]

mutual

/-- A type has the same hint at two sites that write names and hide marks alike. -/
theorem ofType_congr {top : Bool} (hNames : ∀ t, nameOf world site' t = nameOf world site t)
    (hHides : site'.hidesNullable top = site.hidesNullable top) (t : TypeExpr) :
    ofType world site' top t = ofType world site top t := by
  have hBelow : site'.hidesNullable false = site.hidesNullable false := by
    rw [hidesNullable_below, hidesNullable_below]
  cases t with
  | named t => exact ofNamed_congr hNames hHides t
  | literal => rfl
  | union members | intersection members => rw [ofType, ofType, ofTypes_congr hNames hHides members]
  | list items => rw [ofType, ofType, ofTypes_congr hNames hBelow items]
  | generic origin arguments isNullable =>
    rw [ofType, ofType, ofNamed_congr hNames hBelow, ofTypes_congr hNames hBelow arguments]
    simp only [HintSite.mark, hHides]

theorem ofTypes_congr {top : Bool} (hNames : ∀ t, nameOf world site' t = nameOf world site t)
    (hHides : site'.hidesNullable top = site.hidesNullable top) (ts : List TypeExpr) :
    ofTypes world site' top ts = ofTypes world site top ts := by
  cases ts with
  | nil => rfl
  | cons t ts => rw [ofTypes, ofTypes, ofType_congr hNames hHides t, ofTypes_congr hNames hHides ts]

end

mutual

/-- What is hidden at the top of one site need not be there at the other. -/
theorem ofType_topCleared (hNames : ∀ t, nameOf world site' t = nameOf world site t)
    (hHides : site.hidesNullable true = true) (t : TypeExpr) :
    ofType world site true t = ofType world site' true t.topCleared := by
  have hBelow : site'.hidesNullable false = site.hidesNullable false := by
    rw [hidesNullable_below, hidesNullable_below]
  cases t with
  | named t =>
    rw [TypeExpr.topCleared, ofType, ofType, ofNamed, ofNamed, nameOf_unmarked, hNames]
    simp [HintSite.mark, hHides, NamedType.unmarked]
  | literal => rfl
  | union members | intersection members =>
    rw [TypeExpr.topCleared, ofType, ofType, ofTypes_allTopCleared hNames hHides members]
  | list items =>
    rw [TypeExpr.topCleared, ofType, ofType, ofTypes_congr hNames hBelow items]
  | generic origin arguments isNullable =>
    rw [TypeExpr.topCleared, ofType, ofType, ofNamed_congr hNames hBelow,
      ofTypes_congr hNames hBelow arguments]
    simp [HintSite.mark, hHides]

theorem ofTypes_allTopCleared (hNames : ∀ t, nameOf world site' t = nameOf world site t)
    (hHides : site.hidesNullable true = true) (ts : List TypeExpr) :
    ofTypes world site true ts = ofTypes world site' true (TypeExpr.allTopCleared ts) := by
  cases ts with
  | nil => rfl
  | cons t ts =>
    rw [TypeExpr.allTopCleared, ofTypes, ofTypes, ofType_topCleared hNames hHides t,
      ofTypes_allTopCleared hNames hHides ts]

end

/-! ## The marks that are written -/

theorem mark_eq_markedIf {top : Bool} (hShows : site.hidesNullable top = false) (isNullable : Bool)
    (text : String) : site.mark top isNullable text = TypeExpr.markedIf isNullable text := by
  rw [HintSite.mark, hShows, Bool.not_false, Bool.and_true]
  rfl

theorem text_eq_markedName {top : Bool} (hShows : site.hidesNullable top = false) {t : NamedType}
    {r : Rendered} (h : ofNamed world site top t = .ok r) :
    r.text = TypeExpr.markedName site.writtenName t := by
  obtain ⟨name, hName, h⟩ := bind_eq_ok_iff.1 h
  rw [TypeExpr.markedName, ← text_nameOf hName]
  split at h
  next hAny =>
    cases h
    simp [TypeExpr.markedIf, hAny]
  next hOther =>
    cases h
    rw [mark_eq_markedIf hShows, bne_iff_ne.2 hOther, Bool.and_true]

mutual

/-- Where no marks are hidden, a hint is the text of its type with all its marks. -/
theorem text_eq_markedText {top : Bool} (hShows : site.hidesNullable top = false) (t : TypeExpr)
    {r : Rendered} (h : ofType world site top t = .ok r) :
    r.text = t.markedText site.writtenName := by
  cases t with
  | named t => exact text_eq_markedName hShows h
  | literal v =>
    cases h
    rfl
  | union members | intersection members =>
    obtain ⟨parts, hParts, ⟨⟩⟩ := bind_eq_ok_iff.1 h
    rw [TypeExpr.markedText, ← texts_eq_markedTexts hShows members hParts]
    rfl
  | list items =>
    obtain ⟨parts, hParts, ⟨⟩⟩ := bind_eq_ok_iff.1 h
    rw [TypeExpr.markedText, ← texts_eq_markedTexts (hidesNullable_below site) items hParts]
    rfl
  | generic origin arguments isNullable =>
    obtain ⟨name, hName, h⟩ := bind_eq_ok_iff.1 h
    obtain ⟨parts, hParts, ⟨⟩⟩ := bind_eq_ok_iff.1 h
    rw [TypeExpr.markedText, ← texts_eq_markedTexts (hidesNullable_below site) arguments hParts,
      ← text_eq_markedName (hidesNullable_below site) hName, ← mark_eq_markedIf hShows]
    rfl

theorem texts_eq_markedTexts {top : Bool} (hShows : site.hidesNullable top = false)
    (ts : List TypeExpr) {parts : List Rendered} (h : ofTypes world site top ts = .ok parts) :
    parts.map Rendered.text = TypeExpr.markedTexts site.writtenName ts := by
  cases ts with
  | nil =>
    cases h
    rfl
  | cons t ts =>
    obtain ⟨part, hPart, h⟩ := bind_eq_ok_iff.1 h
    obtain ⟨parts, hParts, ⟨⟩⟩ := bind_eq_ok_iff.1 h
    rw [List.map_cons, text_eq_markedText hShows t hPart, texts_eq_markedTexts hShows ts hParts,
      TypeExpr.markedTexts]

end

theorem writtenName_unmarked (t : NamedType) :
    site.writtenName t.unmarked = site.writtenName t := by
  rcases site.resolve_unmarked t with hSame | ⟨hBare, hMarked⟩
  · rw [HintSite.writtenName, HintSite.writtenName, hSame]
    rfl
  · rw [HintSite.writtenName, HintSite.writtenName, hBare, hMarked]
    rfl

end Hint

namespace TypeExpr

variable {name : NamedType → String}

theorem length_markedIf (isNullable : Bool) (text : String) :
    (markedIf isNullable text).length = text.length + noneMark.length * isNullable.toNat := by
  cases isNullable with
  | false => rfl
  | true => rw [markedIf, if_pos rfl, String.length_append, Bool.toNat_true, Nat.mul_one]

theorem length_markedName (hName : ∀ t, name t.unmarked = name t) (t : NamedType) :
    (markedName name t).length = (markedName name t.unmarked).length
      + noneMark.length * (t.isNullable && name t != "Any").toNat := by
  rw [markedName, length_markedIf, markedName, hName]
  rfl

mutual

theorem length_markedText (hName : ∀ t, name t.unmarked = name t) (t : TypeExpr) :
    (t.markedText name).length
      = (t.unmarked.markedText name).length + noneMark.length * t.markCount name := by
  cases t with
  | named t => exact length_markedName hName t
  | literal => rfl
  | union members | intersection members => exact length_intercalate hName _ members
  | list items =>
    simp only [unmarked, markedText, markCount, String.length_append,
      length_intercalate hName ", " items]
    omega
  | generic origin arguments isNullable =>
    simp only [unmarked, markedText, markCount, length_markedIf, String.length_append,
      length_intercalate hName ", " arguments, length_markedName hName origin, Nat.mul_add,
      Bool.toNat_false, Nat.mul_zero, Nat.add_zero]
    omega

theorem length_intercalate (hName : ∀ t, name t.unmarked = name t) (separator : String)
    (ts : List TypeExpr) :
    (separator.intercalate (markedTexts name ts)).length
      = (separator.intercalate (markedTexts name (allUnmarked ts))).length
        + noneMark.length * markCounts name ts := by
  match ts with
  | [] => rfl
  | [t] =>
    simp [markedTexts, allUnmarked, markCounts, length_markedText hName t]
  | t :: u :: ts =>
    have hRest := length_intercalate hName separator (u :: ts)
    simp only [markedTexts, allUnmarked, markCounts] at hRest
    simp only [markedTexts, allUnmarked, markCounts, String.intercalate_cons_cons,
      String.length_append, length_markedText hName t, Nat.mul_add, hRest]
    omega

end

end TypeExpr

/-! ## Default values -/

def Parameter.withoutDefault (p : Parameter) : Parameter :=
  { p with default := none }

namespace Hint

variable {world : World} {site : HintSite}

/-- A type has a hint without its marks if it has one. -/
theorem exists_ofType_unmarked {top : Bool} {t : TypeExpr} {r : Rendered}
    (h : ofType world site top t = .ok r) :
    ∃ bare, ofType world site top t.unmarked = .ok bare := by
  rw [← failure?_eq_none_iff, failure?_ofType, TypeExpr.names_unmarked, List.findSome?_map]
  simp only [Function.comp_def, nameOf_unmarked]
  rw [← failure?_ofType top, failure?_eq_none_iff]
  exact ⟨r, h⟩

end Hint

/-- With a default value other than `None`, the hint of a parameter is that of the type whose marks
at the top are gone at the parameter without the default value: the same text with the same modules,
or the same error after the same modules. With the default value `None` or without one, and for a
result, every mark is written where it is, so that the hint has the length of that without marks and
as many alternatives more as there are marks on anything but `Any`. -/
theorem default_hides_marks_at_top (world : World) (m : Method) :
    (∀ p : Parameter, p.hasValue = true → ∀ t : TypeExpr,
      Hint.ofType world ⟨m, some p⟩ true t
          = Hint.ofType world ⟨m, some p.withoutDefault⟩ true t.topCleared ∧
        Hint.recorded world ⟨m, some p⟩ t.names
          = Hint.recorded world ⟨m, some p.withoutDefault⟩ t.topCleared.names) ∧
    (∀ parameter : Option Parameter, (∀ p ∈ parameter, p.hasValue = false) →
      ∀ (t : TypeExpr) (r : Rendered), Hint.ofType world ⟨m, parameter⟩ true t = .ok r →
        let name := (HintSite.mk m parameter).writtenName
        r.text = t.markedText name ∧
          ∃ bare, Hint.ofType world ⟨m, parameter⟩ true t.unmarked = .ok bare ∧
            r.text.length = bare.text.length + TypeExpr.noneMark.length * t.markCount name) ∧
    ∀ (site : HintSite) (t : TypeExpr) (r : Rendered), Hint.ofType world site true t = .ok r →
      Hint.recorded world site t.names = r.modules := by
  refine ⟨fun p hValue t => ?_, fun parameter hNone t r h => ?_, fun site t r h => ?_⟩
  · have hNames : ∀ name, Hint.nameOf world ⟨m, some p.withoutDefault⟩ name
        = Hint.nameOf world ⟨m, some p⟩ name := Hint.nameOf_congr rfl rfl
    refine ⟨Hint.ofType_topCleared hNames hValue t, ?_⟩
    rw [Hint.recorded_congr hNames, ← Hint.recorded_unmarked, ← TypeExpr.names_unmarked,
      ← TypeExpr.unmarked_topCleared, TypeExpr.names_unmarked, Hint.recorded_unmarked]
  · have hShows : (HintSite.mk m parameter).hidesNullable true = false := by
      cases parameter with
      | none => rfl
      | some p => exact hNone p rfl
    obtain ⟨bare, hBare⟩ := Hint.exists_ofType_unmarked h
    have hText := Hint.text_eq_markedText hShows t h
    refine ⟨hText, bare, hBare, ?_⟩
    rw [hText, Hint.text_eq_markedText hShows _ hBare]
    exact TypeExpr.length_markedText Hint.writtenName_unmarked t
  · have hModules := Hint.recorded_ofType t h []
    rwa [List.append_nil, Hint.recorded, List.append_nil] at hModules

namespace NullableHint.Sample

def whole : TypeExpr := .named { name := "int", isBuiltin := true, isNullable := true }

/-- A union of a name and a list, each nullable, as are the items of the list. -/
def type : TypeExpr := .union [whole, .generic (.builtin "list") [whole] true]

def item : Parameter where
  name := "item"
  kind := .positionalOrKeyword
  type := some type
  default := some (.int 3)

def add : Method := { name := "add", declaring := .builtin "list", parameters := [item] }

end NullableHint.Sample

open NullableHint.Sample in
theorem default_hides_marks_at_top_of_union :
    Hint.ofType World.library ⟨add, some item⟩ true type = .ok ⟨"int | list[int | None]", []⟩ ∧
      ∃ bare, Hint.ofType World.library ⟨add, some item.withoutDefault⟩ true type.unmarked
          = .ok bare ∧
        "int | None | list[int | None] | None".length
          = bare.text.length + TypeExpr.noneMark.length * 3 := by
  obtain ⟨hCleared, hMarked, -⟩ := default_hides_marks_at_top World.library add
  refine ⟨(hCleared item rfl type).1.trans rfl, ?_⟩
  exact (hMarked (some item.withoutDefault) (fun p hMem => Option.some.inj hMem ▸ rfl) type
    ⟨"int | None | list[int | None] | None", []⟩ rfl).2

end Interpose

import Interpose.Proofs.Conversion.Ending
import Interpose.Proofs.Conversion.Places
import Interpose.Proofs.HintText.Written

/-! # Conversions that end

Without a guard, the recursion ends on every annotation that does not lead to the class that marks
classes as generic, if the names can be ranked. The guarded conversion never meets its guard then,
and comes to the same result.
-/
namespace Interpose

set_option autoImplicit false

universe u

/-! ## The guard -/

/-- Whether what has a text to be read is stored at one of the places, and only one object is stored
at each place. -/
structure Namespace.IsLocated (ns : Namespace) : Prop where
  placed : Conversion.IsPlaced ns
  unique : ∀ {dotted other : String} {found found' : Found} {place : Place},
    ns.find dotted = some found → ns.find other = some found' →
      found.place = some place → found'.place = some place → found.object = found'.object

theorem World.isLocated_namespaceOf (world : World) (module : String) :
    (world.namespaceOf module).IsLocated :=
  ⟨fun hFind hText => isPlaced_find hFind hText, object_unique⟩

namespace Conversion

section Ranked

variable {ns : Namespace} {Rank : Type u} [Preorder Rank] [WellFoundedLT Rank]
  {rank : String → Rank}

theorem IsRankedBy.not_isCircular (hRanked : IsRankedBy ns rank) (hLocated : ns.IsLocated)
    (dotted : String) : ¬ IsCircular ns dotted := by
  rintro ⟨found, found', dotted', place, hFind, hPlace, hReaches, hFind', hPlace'⟩
  -- What the second name means is what the first one means, so it leads to itself.
  rw [hLocated.unique hFind hFind' hPlace hPlace'] at hReaches
  exact (hRanked.isGrounded (.name dotted')).not_transGen (.head' (.found hFind') hReaches)

/-- Where the names have ranks, the guard is only met at the class that marks classes as generic. -/
theorem IsRankedBy.toType_ne_endlessHint (hRanked : IsRankedBy ns rank)
    (hLocated : ns.IsLocated) {object : Object} (hPlain : IsPlain ns (.object object)) :
    object.toType ns ≠ .error .endlessHint := by
  intro h
  obtain hReported | ⟨culprit, hReaches, hEscapes⟩ := failure_of_toType hLocated.placed h
  · cases hReported
  · cases hEscapes with
    | generic => exact hPlain _ hReaches .value
    | aliasOfGeneric form => exact hPlain _ hReaches (.aliased form)
    | @circle dotted hCircular => exact hRanked.not_isCircular hLocated dotted hCircular

end Ranked

end Conversion

open Conversion in
/-- If the names have ranks, so that what a name means only mentions names of smaller rank, then the
conversion of an annotation ends, unless it comes to the class that marks classes as generic. In a
namespace whose objects have places, as that of a module, it ends with what the conversion that
watches for circles comes to. -/
theorem conversion_ends {Rank : Type u} [Preorder Rank] [WellFoundedLT Rank] {ns : Namespace}
    {rank : String → Rank} (hRanked : IsRankedBy ns rank) {object : Object}
    (hPlain : IsPlain ns (.object object)) :
    Ends (fun depth => Unguarded.ofObject ns depth object) ∧
      (ns.IsLocated →
        EndsWith (fun depth => Unguarded.ofObject ns depth object) (object.toType ns) ∧
          object.toType ns ≠ .error .endlessHint) := by
  refine ⟨(hRanked.isGrounded (.object object)).endsOn hPlain, fun hLocated => ?_⟩
  have hUnmet := hRanked.toType_ne_endlessHint hLocated hPlain
  exact ⟨endsWith_toType hUnmet, hUnmet⟩

/-! ## Texts that lead to one thing -/

theorem HintText.parse_dotted {dotted : String} (h : Node.IsDotted dotted) :
    parse dotted = .ok (.name dotted) := by
  have hWritten : (Node.name dotted : Node Value).written = dotted := String.ofList_toList
  have hName : (Node.name dotted).IsHint Value.IsHintLiteral false := h
  have hParsed := parse_written hName
  rwa [hWritten] at hParsed

namespace Conversion

variable {ns : Namespace} {subject next : Subject} {dotted : String}

/-- Whether one step leads to nothing else. -/
def LeadsOnlyTo (ns : Namespace) (subject next : Subject) : Prop :=
  ∀ part, Leads ns subject part → part = next

theorem LeadsOnlyTo.isPlain (h : LeadsOnlyTo ns subject next) (hSelf : ¬ IsGenericClass subject)
    (hPlain : IsPlain ns next) : IsPlain ns subject := by
  intro part hReaches
  obtain rfl | ⟨first, hLeads, hMore⟩ := Relation.ReflTransGen.cases_head hReaches
  · exact hSelf
  · exact hPlain part (h first hLeads ▸ hMore)

theorem LeadsOnlyTo.mentions (h : LeadsOnlyTo ns subject next)
    (hName : ∀ name, subject ≠ .name name) (hMentions : Mentions ns subject dotted) :
    Mentions ns next dotted := by
  cases hMentions with
  | here => exact absurd rfl (hName dotted)
  | part hLeads _ hMentions => exact h _ hLeads ▸ hMentions

theorem leadsOnlyTo_value (v : Value) : LeadsOnlyTo ns (.object (.value v)) (.value v) := by
  rintro part ⟨⟩
  rfl

theorem leadsOnlyTo_str (s : String) : LeadsOnlyTo ns (.value (.str s)) (.text s) := by
  intro part hLeads
  cases hLeads with
  | valueText hText =>
    cases hText
    rfl

theorem leadsOnlyTo_tree {text : String} {node : HintText.Node Value}
    (h : HintText.parse text = .ok node) : LeadsOnlyTo ns (.text text) (.node node) := by
  intro part hLeads
  cases hLeads with
  | tree hParsed =>
    cases h.symm.trans hParsed
    rfl

theorem leadsOnlyTo_nodeName (dotted : String) :
    LeadsOnlyTo ns (.node (.name dotted)) (.name dotted) := by
  rintro part ⟨⟩
  rfl

theorem leadsOnlyTo_quoted (s : String) :
    LeadsOnlyTo ns (.node (.literal (.str s))) (.text s) := by
  intro part hLeads
  cases hLeads with
  | quoted hText =>
    cases hText
    rfl

theorem leadsOnlyTo_found {found : Found} (h : ns.find dotted = some found) :
    LeadsOnlyTo ns (.name dotted) (.object found.object) := by
  intro part hLeads
  cases hLeads with
  | found hFind =>
    cases h.symm.trans hFind
    rfl

theorem isPlain_cls {c : ClassRef} (h : c ≠ ClassRef.genericClass) :
    IsPlain ns (.object (.value (.cls c))) := by
  refine (leadsOnlyTo_value _).isPlain nofun fun part hReaches => ?_
  obtain rfl | ⟨next, hLeads, -⟩ := Relation.ReflTransGen.cases_head hReaches
  · intro hGeneric
    cases hGeneric
    exact h rfl
  · cases hLeads with
    | valueText hText => cases hText

theorem isPlain_of_text {s : String} (h : IsPlain ns (.text s)) :
    IsPlain ns (.object (.value (.str s))) :=
  (leadsOnlyTo_value _).isPlain nofun ((leadsOnlyTo_str s).isPlain nofun h)

theorem isPlain_of_find {found : Found} (hDotted : HintText.Node.IsDotted dotted)
    (hFind : ns.find dotted = some found) (h : IsPlain ns (.object found.object)) :
    IsPlain ns (.text dotted) := by
  refine (leadsOnlyTo_tree (HintText.parse_dotted hDotted)).isPlain nofun ?_
  refine (leadsOnlyTo_nodeName dotted).isPlain nofun ?_
  exact (leadsOnlyTo_found hFind).isPlain nofun h

end Conversion

namespace EndingConversion.Sample

open Conversion HintText

def size : Found := ⟨.value (.str "'int'"), some (.binding "m" "Size")⟩

def int : Found := ⟨.cls (.builtin "int"), none⟩

/-- A name means a text that quotes a text. -/
def names : Namespace where
  find dotted := if dotted = "Size" then some size else if dotted = "int" then some int else none
  isBound _ := false
  places := [.binding "m" "Size"]

def rank (dotted : String) : Nat :=
  if dotted = "Size" then 1 else 0

theorem find_cases {dotted : String} {found : Found} (h : names.find dotted = some found) :
    dotted = "Size" ∧ found = size ∨ dotted = "int" ∧ found = int := by
  have h : (if dotted = "Size" then some size else if dotted = "int" then some int else none)
      = some found := h
  split at h
  next hSize =>
    cases h
    exact .inl ⟨hSize, rfl⟩
  next =>
    split at h
    next hInt =>
      cases h
      exact .inr ⟨hInt, rfl⟩
    next => cases h

theorem isLocated_names : names.IsLocated where
  placed := by
    intro dotted found hFind hText
    obtain ⟨-, rfl⟩ | ⟨-, rfl⟩ := find_cases hFind
    · exact ⟨_, List.mem_cons_self, rfl⟩
    · exact absurd rfl hText
  unique := by
    intro dotted other found found' place hFind hFind' hPlace hPlace'
    obtain ⟨-, rfl⟩ | ⟨-, rfl⟩ := find_cases hFind
    · obtain ⟨-, rfl⟩ | ⟨-, rfl⟩ := find_cases hFind'
      · rfl
      · cases hPlace'
    · cases hPlace

theorem parse_quoted : parse "'int'" = .ok (.literal (.str "int")) := by
  have hLiteral : (Node.literal (.str "int")).IsHint Value.IsHintLiteral false := trivial
  have hWritten : (Node.literal (.str "int")).written = "'int'" := rfl
  exact hWritten ▸ parse_written hLiteral

theorem isRankedBy_rank : IsRankedBy names rank := by
  intro dotted other found hFind hMentions
  obtain ⟨rfl, rfl⟩ | ⟨rfl, rfl⟩ := find_cases hFind
  · have hMentions := (leadsOnlyTo_value _).mentions nofun hMentions
    have hMentions := (leadsOnlyTo_str _).mentions nofun hMentions
    have hMentions := (leadsOnlyTo_tree parse_quoted).mentions nofun hMentions
    have hMentions := (leadsOnlyTo_quoted _).mentions nofun hMentions
    have hMentions := (leadsOnlyTo_tree (parse_dotted (by decide))).mentions nofun hMentions
    have hMentions := (leadsOnlyTo_nodeName _).mentions nofun hMentions
    cases hMentions with
    | here => decide
    | part hLeads hName => exact absurd rfl (hName "int")
  · have hMentions := (leadsOnlyTo_value _).mentions nofun hMentions
    cases hMentions with
    | part hLeads => cases hLeads with
      | valueText hText => cases hText

theorem isPlain_size : IsPlain names (.object size.object) := by
  have hInt : IsPlain names (.text "int") :=
    isPlain_of_find (by decide) rfl (isPlain_cls (by decide))
  refine isPlain_of_text ?_
  refine (leadsOnlyTo_tree parse_quoted).isPlain nofun ?_
  exact (leadsOnlyTo_quoted "int").isPlain nofun hInt

def quotedHint : Object := .forward "Size"

theorem isPlain_quotedHint : IsPlain names (.object quotedHint) := by
  have hForward : LeadsOnlyTo names (.object quotedHint) (.text "Size") := by
    rintro part ⟨⟩
    rfl
  exact hForward.isPlain nofun (isPlain_of_find (by decide) rfl isPlain_size)

def endless : Object := .generic false (.cls (.builtin "list")) [.cls .genericClass]

theorem ofObject_endless (ns : Namespace) (depth : Nat) :
    Unguarded.ofObject ns (depth + 4) endless = tooDeep := by
  have hList : Unguarded.ofObject ns (depth + 3) (.cls (.builtin "list"))
      = pure (.named (.builtin "list")) := by
    rw [Unguarded.ofObject, Unguarded.ofValue, Unguarded.ofClass]
    rfl
  have hGeneric : Unguarded.ofObject ns (depth + 3) (.cls .genericClass) = tooDeep := by
    rw [Unguarded.ofObject, Unguarded.ofValue, ofClass_genericClass]
  rw [endless, Unguarded.ofObject, hList, pure_bind]
  dsimp only
  rw [List.mapM_cons, hGeneric]
  rfl

theorem not_ends_endless (ns : Namespace) :
    ¬ Ends fun depth => Unguarded.ofObject ns depth endless := by
  rintro ⟨result, enough, hRun⟩
  have hResult : (Unguarded.ofObject ns (enough + 4) endless).run = some result :=
    hRun (enough + 4) (by omega)
  rw [ofObject_endless] at hResult
  cases hResult

end EndingConversion.Sample

open EndingConversion.Sample Conversion in
theorem conversion_ends_of_quoted :
    IsRankedBy names rank ∧ IsPlain names (.object quotedHint) ∧ names.IsLocated ∧
      Ends (fun depth => Unguarded.ofObject names depth quotedHint) ∧
      EndsWith (fun depth => Unguarded.ofObject names depth quotedHint)
        (quotedHint.toType names) ∧
      quotedHint.toType names ≠ .error .endlessHint := by
  obtain ⟨hEnds, hGuarded⟩ := conversion_ends isRankedBy_rank isPlain_quotedHint
  exact ⟨isRankedBy_rank, isPlain_quotedHint, isLocated_names, hEnds, hGuarded isLocated_names⟩

open EndingConversion.Sample Conversion in
/-- A list of the class that marks classes as generic is not that class, and no name is looked up
for it, but its conversion does not end. -/
theorem conversion_not_ends :
    IsRankedBy names rank ∧ endless ≠ .cls .genericClass ∧
      ¬ Ends (fun depth => Unguarded.ofObject names depth endless) ∧
      endless.toType names = .error .endlessHint := by
  refine ⟨isRankedBy_rank, nofun, not_ends_endless names, ?_⟩
  by_contra hUnmet
  exact not_ends_endless names ⟨_, endsWith_toType hUnmet⟩

end Interpose

import Interpose.Conversion
import Interpose.Proofs.HintText.Lexemes
import Interpose.Proofs.Sequence
import Mathlib.Logic.Relation

/-! # How a conversion fails

A conversion that fails for another reason than that an annotation is not supported has come to a
text in the grammar with a literal that has no value, to an annotated type without a base, to the
class that marks classes as generic, or to a text that leads back to itself.
-/
namespace Interpose.Conversion

set_option autoImplicit false

open HintText

/-! ## What an annotation leads to -/

inductive Subject where
  | object (object : Object)
  | value (value : Value)
  | text (text : String)
  | node (node : Node Value)
  | name (dotted : String)

/-- The text that a value is converted as. -/
def textOf? : Value → Option String
  | .str s | .strSub s | .member _ .text _ (.str s) => some s
  | .brokenStr t => some (String.ofList t.masked)
  | _ => none

/-- What the name before the bracket of a subscript makes of the subscript. -/
def formIn (ns : Namespace) (origin : String) (arguments : List (Node Value)) : SubscriptForm :=
  subscriptForm ((ns.find origin).map Found.object) arguments.length

/-- One step of a conversion, from something to a part of it that is converted in turn. -/
inductive Leads (ns : Namespace) : Subject → Subject → Prop where
  | value (v : Value) : Leads ns (.object (.value v)) (.value v)
  | unionMember {typed : Bool} {members : List Object} {object : Object} (h : object ∈ members) :
      Leads ns (.object (.union typed members)) (.object object)
  | base (base : Object) (notes : List Object) :
      Leads ns (.object (.annotated base notes)) (.object base)
  | origin (typed : Bool) (origin : Object) (arguments : List Object) :
      Leads ns (.object (.generic typed origin arguments)) (.object origin)
  | argument {typed : Bool} {origin object : Object} {arguments : List Object}
      (h : object ∈ arguments) :
      Leads ns (.object (.generic typed origin arguments)) (.object object)
  | item {items : List Object} {object : Object} (h : object ∈ items) :
      Leads ns (.object (.list items)) (.object object)
  | forward (text : String) : Leads ns (.object (.forward text)) (.text text)
  | valueText {v : Value} {text : String} (h : textOf? v = some text) :
      Leads ns (.value v) (.text text)
  | valueItem {items : List Value} {v : Value} (h : v ∈ items) :
      Leads ns (.value (.list items)) (.value v)
  | tree {text : String} {node : Node Value} (h : HintText.parse text = .ok node) :
      Leads ns (.text text) (.node node)
  | name {dotted : String} (hRelative : dotted ∉ relativeNames) (hNone : dotted ≠ "None") :
      Leads ns (.node (.name dotted)) (.name dotted)
  | member {members : List (Node Value)} {node : Node Value} (h : node ∈ members) :
      Leads ns (.node (.union members)) (.node node)
  | operand {members : List (Node Value)} {node : Node Value} (h : node ∈ members) :
      Leads ns (.node (.intersection members)) (.node node)
  | entry {items : List (Node Value)} {node : Node Value} (h : node ∈ items) :
      Leads ns (.node (.list items)) (.node node)
  | quoted {v : Value} {text : String} (h : textOf? v = some text) :
      Leads ns (.node (.literal v)) (.text text)
  | nodeOrigin {origin : String} {arguments : List (Node Value)}
      (hForm : formIn ns origin arguments = .ordinary) :
      Leads ns (.node (.subscript origin arguments)) (.name origin)
  | nodeArgument {origin : String} {arguments : List (Node Value)} {node : Node Value}
      (hLiteral : formIn ns origin arguments ≠ .literal)
      (hAnnotated : formIn ns origin arguments ≠ .annotated) (h : node ∈ arguments) :
      Leads ns (.node (.subscript origin arguments)) (.node node)
  | nodeBase {origin : String} {node : Node Value} {notes : List (Node Value)}
      (hForm : formIn ns origin (node :: notes) = .annotated) :
      Leads ns (.node (.subscript origin (node :: notes))) (.node node)
  | found {dotted : String} {found : Found} (h : ns.find dotted = some found) :
      Leads ns (.name dotted) (.object found.object)

def Reaches (ns : Namespace) : Subject → Subject → Prop :=
  Relation.ReflTransGen (Leads ns)

/-- Whether a name stands for an object at some place, and leads to a name that stands for one at
the same place. -/
def IsCircular (ns : Namespace) (dotted : String) : Prop :=
  ∃ found found' dotted' place, ns.find dotted = some found ∧ found.place = some place ∧
    Reaches ns (.object found.object) (.name dotted') ∧
    ns.find dotted' = some found' ∧ found'.place = some place

/-- The failures that no message tells of, each with what a conversion came to. -/
inductive Escapes (ns : Namespace) : Failure → Subject → Prop where
  | literal {text : String} {spelled : Spelled} (hDerivable : IsDerivable text.toList spelled)
      (hRead : spelled.mapLeaves? Spelling.read? = none) :
      Escapes ns .unreadableLiteral (.text text)
  | annotated {origin : String} (hForm : formIn ns origin [] = .annotated) :
      Escapes ns .missingArgument (.node (.subscript origin []))
  | generic : Escapes ns .endlessHint (.value (.cls ClassRef.genericClass))
  | aliasOfGeneric (form : String) :
      Escapes ns .endlessHint (.object (.alias form ClassRef.genericClass))
  | circle {dotted : String} (h : IsCircular ns dotted) : Escapes ns .endlessHint (.name dotted)

/-! ## Failures with visited places -/

/-- A name whose text is stored at a place that has been visited. -/
inductive IsVisited (ns : Namespace) (places : List Place) : Failure → Subject → Prop where
  | of {dotted : String} {found : Found} {place : Place} (hFind : ns.find dotted = some found)
      (hText : found.object.textSize ≠ 0) (hPlace : found.place = some place)
      (hVisited : place ∉ places) : IsVisited ns places .endlessHint (.name dotted)

/-- How a conversion with unvisited places may fail. -/
def FailsIn (ns : Namespace) (places : List Place) (failure : Failure) (subject : Subject) : Prop :=
  failure.isIntrospection = true ∨
    ∃ culprit, Reaches ns subject culprit ∧
      (Escapes ns failure culprit ∨ IsVisited ns places failure culprit)

section FailsIn

variable {ns : Namespace} {places : List Place} {failure : Failure} {subject part : Subject}

theorem FailsIn.step (hLeads : Leads ns subject part) (h : FailsIn ns places failure part) :
    FailsIn ns places failure subject := by
  obtain hReported | ⟨culprit, hReaches, hCulprit⟩ := h
  · exact .inl hReported
  · exact .inr ⟨culprit, .head hLeads hReaches, hCulprit⟩

theorem FailsIn.of_mem {α : Type} {parts : List α} {asSubject : α → Subject}
    (h : ∃ part ∈ parts, FailsIn ns places failure (asSubject part))
    (hLeads : ∀ {part : α}, part ∈ parts → Leads ns subject (asSubject part)) :
    FailsIn ns places failure subject := by
  obtain ⟨part, hMem, hFails⟩ := h
  exact .step (hLeads hMem) hFails

theorem Escapes.failsIn (h : Escapes ns failure subject) : FailsIn ns places failure subject :=
  .inr ⟨subject, .refl, .inl h⟩

/-- Behind a place that is visited, a name stored there as well closes a circle. -/
theorem FailsIn.visit {dotted : String} {found : Found} {place : Place}
    (hFind : ns.find dotted = some found) (hPlace : found.place = some place)
    (h : FailsIn ns (places.erase place) failure (.object found.object)) :
    FailsIn ns places failure (.name dotted) := by
  obtain hReported | ⟨culprit, hReaches, hEscapes | hVisited⟩ := h
  · exact .inl hReported
  · exact .inr ⟨culprit, .head (.found hFind) hReaches, .inl hEscapes⟩
  · cases hVisited with
    | @of dotted' found' place' hFind' hText hPlace' hVisited =>
      by_cases hSame : place' = place
      · have hCircle : IsCircular ns dotted :=
          ⟨found, found', dotted', place, hFind, hPlace, hReaches, hFind', hSame ▸ hPlace'⟩
        exact (Escapes.circle hCircle).failsIn
      · have hOuter : place' ∉ places := fun hMem => hVisited ((List.mem_erase_of_ne hSame).2 hMem)
        exact .inr ⟨_, .head (.found hFind) hReaches, .inr (.of hFind' hText hPlace' hOuter)⟩

theorem failsIn_of_classType {c : ClassRef} (h : classType c = .error failure)
    (hEscapes : c = ClassRef.genericClass → Escapes ns .endlessHint subject) :
    FailsIn ns places failure subject := by
  rw [classType] at h
  split at h
  · cases h
  split at h
  next hGeneric =>
    cases h
    exact (hEscapes hGeneric).failsIn
  next => cases h

theorem parse_of_parseShown {text shown : String} {node : Node Value}
    (h : parseShown text shown = .ok node) : HintText.parse text = .ok node := by
  rw [parse]
  rw [parseShown] at h ⊢
  split at h
  next => cases h
  next =>
    split at h
    next => cases h
    next => exact h

theorem failsIn_of_parseShown {text shown : String} (h : parseShown text shown = .error failure) :
    FailsIn ns places failure (.text text) := by
  rw [parseShown] at h
  split at h
  next =>
    cases h
    exact .inl rfl
  next spelled hSpelled =>
    split at h
    next hRead =>
      cases h
      exact (Escapes.literal (spelled?_eq_some_iff.1 hSpelled) hRead).failsIn
    next => cases h

theorem failsIn_of_originOf {text : String} {type : TypeExpr}
    (h : originOf text type = .error failure) : FailsIn ns places failure subject := by
  cases type with
  | named | generic => cases h
  | _ =>
    cases h
    exact .inl rfl

end FailsIn

/-! ## Every failure of a conversion -/

/-- Whether what has a text to be read is stored at one of the places. -/
def IsPlaced (ns : Namespace) : Prop :=
  ∀ {dotted : String} {found : Found}, ns.find dotted = some found →
    found.object.textSize ≠ 0 → ∃ place ∈ ns.places, found.place = some place

variable {ns : Namespace} {failure : Failure}

mutual

theorem failsIn_ofObject (hPlaced : IsPlaced ns) (places : List Place) (object : Object)
    (h : ofObject ns places object = .error failure) :
    FailsIn ns places failure (.object object) := by
  cases object with
  | value v =>
    rw [ofObject] at h
    exact .step (.value v) (failsIn_ofValue hPlaced places v h)
  | typeVariable | variablePart | special | literal =>
    rw [ofObject] at h
    cases h
  | «alias» form origin =>
    rw [ofObject] at h
    exact failsIn_of_classType h fun hGeneric => hGeneric ▸ .aliasOfGeneric form
  | newType | module | routine | tuple =>
    rw [ofObject] at h
    cases h
    exact .inl rfl
  | union typed members =>
    rw [ofObject] at h
    obtain hMembers | ⟨_, -, ⟨⟩⟩ := Sequence.bind_eq_error_iff.1 h
    exact .of_mem (failsIn_ofObjects hPlaced places members hMembers) .unionMember
  | annotated base notes =>
    rw [ofObject] at h
    exact .step (.base base notes) (failsIn_ofObject hPlaced places base h)
  | generic typed origin arguments =>
    rw [ofObject.eq_def] at h
    dsimp only at h
    obtain hOrigin | ⟨type, -, hRest⟩ := Sequence.bind_eq_error_iff.1 h
    · exact .step (.origin typed origin arguments) (failsIn_ofObject hPlaced places origin hOrigin)
    · split at hRest
      next => cases hRest
      next =>
        obtain hArguments | ⟨_, -, ⟨⟩⟩ := Sequence.bind_eq_error_iff.1 hRest
        exact .of_mem (failsIn_ofObjects hPlaced places arguments hArguments) .argument
      next =>
        cases hRest
        exact .inl rfl
  | list items =>
    rw [ofObject] at h
    obtain hItems | ⟨_, -, ⟨⟩⟩ := Sequence.bind_eq_error_iff.1 h
    exact .of_mem (failsIn_ofObjects hPlaced places items hItems) .item
  | forward text =>
    rw [ofObject] at h
    exact .step (.forward text) (failsIn_ofText hPlaced places text _ h)
termination_by (places.length, object.textSize, sizeOf object)
decreasing_by
  all_goals
    subst_vars
    refine lt_of_part ?_ ?_ <;> simp [Object.textSize] <;> omega

theorem failsIn_ofObjects (hPlaced : IsPlaced ns) (places : List Place) (objects : List Object)
    (h : ofObjects ns places objects = .error failure) :
    ∃ object ∈ objects, FailsIn ns places failure (.object object) := by
  cases objects with
  | nil =>
    rw [ofObjects] at h
    cases h
  | cons object objects =>
    rw [ofObjects] at h
    obtain hHere | ⟨_, -, hRest⟩ := Sequence.bind_eq_error_iff.1 h
    · exact ⟨object, List.mem_cons_self, failsIn_ofObject hPlaced places object hHere⟩
    · obtain hThere | ⟨_, -, ⟨⟩⟩ := Sequence.bind_eq_error_iff.1 hRest
      obtain ⟨part, hMem, hFails⟩ := failsIn_ofObjects hPlaced places objects hThere
      exact ⟨part, List.mem_cons_of_mem _ hMem, hFails⟩
termination_by (places.length, Object.totalTextSize objects, sizeOf objects)
decreasing_by
  all_goals
    subst_vars
    exact lt_of_part (by simp [Object.totalTextSize]) (by simp <;> omega)

theorem failsIn_ofValue (hPlaced : IsPlaced ns) (places : List Place) (value : Value)
    (h : ofValue ns places value = .error failure) :
    FailsIn ns places failure (.value value) := by
  rw [ofValue.eq_def] at h
  split at h
  next => cases h
  next => cases h
  next s => exact .step (.valueText rfl) (failsIn_ofText hPlaced places s _ h)
  next s => exact .step (.valueText rfl) (failsIn_ofText hPlaced places s _ h)
  next s => exact .step (.valueText rfl) (failsIn_ofText hPlaced places s _ h)
  next t => exact .step (.valueText rfl) (failsIn_ofText hPlaced places _ _ h)
  next c => exact failsIn_of_classType h fun hGeneric => hGeneric ▸ .generic
  next items =>
    obtain hItems | ⟨_, -, ⟨⟩⟩ := Sequence.bind_eq_error_iff.1 h
    exact .of_mem (failsIn_ofValues hPlaced places items hItems) .valueItem
  next =>
    cases h
    exact .inl rfl
termination_by (places.length, value.textSize, sizeOf value)
decreasing_by
  all_goals
    subst_vars
    first
    | (refine lt_of_shorter ?_; simp [Value.textSize, Text.BrokenText.masked]; done)
    | (refine lt_of_part ?_ ?_ <;> simp [Value.textSize])

theorem failsIn_ofValues (hPlaced : IsPlaced ns) (places : List Place) (values : List Value)
    (h : ofValues ns places values = .error failure) :
    ∃ v ∈ values, FailsIn ns places failure (.value v) := by
  cases values with
  | nil =>
    rw [ofValues] at h
    cases h
  | cons v values =>
    rw [ofValues] at h
    obtain hHere | ⟨_, -, hRest⟩ := Sequence.bind_eq_error_iff.1 h
    · exact ⟨v, List.mem_cons_self, failsIn_ofValue hPlaced places v hHere⟩
    · obtain hThere | ⟨_, -, ⟨⟩⟩ := Sequence.bind_eq_error_iff.1 hRest
      obtain ⟨part, hMem, hFails⟩ := failsIn_ofValues hPlaced places values hThere
      exact ⟨part, List.mem_cons_of_mem _ hMem, hFails⟩
termination_by (places.length, Value.totalTextSize values, sizeOf values)
decreasing_by
  all_goals
    subst_vars
    exact lt_of_part (by simp [Value.totalTextSize]) (by simp <;> omega)

theorem failsIn_ofText (hPlaced : IsPlaced ns) (places : List Place) (text shown : String)
    (h : ofText ns places text shown = .error failure) :
    FailsIn ns places failure (.text text) := by
  rw [ofText] at h
  split at h
  next node hParsed =>
    exact .step (.tree (parse_of_parseShown hParsed)) (failsIn_ofNode hPlaced places node h)
  next hFailed =>
    cases h
    exact failsIn_of_parseShown hFailed
termination_by (places.length, text.toList.length + 1, 0)
decreasing_by exact lt_of_shorter (Nat.lt_succ_of_le (HintText.size_parseShown ‹_›))

theorem failsIn_ofNode (hPlaced : IsPlaced ns) (places : List Place) (node : Node Value)
    (h : ofNode ns places node = .error failure) : FailsIn ns places failure (.node node) := by
  rw [ofNode.eq_def] at h
  split at h
  next dotted =>
    split at h
    next => cases h
    next hRelative =>
      split at h
      next => cases h
      next hNone =>
        have hOther : dotted ∉ relativeNames := fun hMem =>
          hRelative (List.contains_iff_mem.2 hMem)
        exact .step (.name hOther hNone) (failsIn_ofName hPlaced places dotted h)
  next members =>
    obtain hMembers | ⟨_, -, ⟨⟩⟩ := Sequence.bind_eq_error_iff.1 h
    exact .of_mem (failsIn_ofNodes hPlaced places members hMembers) .member
  next members =>
    obtain hMembers | ⟨_, -, ⟨⟩⟩ := Sequence.bind_eq_error_iff.1 h
    exact .of_mem (failsIn_ofNodes hPlaced places members hMembers) .operand
  next items =>
    obtain hItems | ⟨_, -, ⟨⟩⟩ := Sequence.bind_eq_error_iff.1 h
    exact .of_mem (failsIn_ofNodes hPlaced places items hItems) .entry
  next => cases h
  next s => exact .step (.quoted rfl) (failsIn_ofText hPlaced places s _ h)
  next t => exact .step (.quoted rfl) (failsIn_ofText hPlaced places _ _ h)
  next => cases h
  next origin arguments =>
    have hForm : formIn ns origin arguments =
        subscriptForm ((ns.find origin).map Found.object) arguments.length := rfl
    split at h
    next hOptional =>
      obtain hArguments | ⟨_, -, ⟨⟩⟩ := Sequence.bind_eq_error_iff.1 h
      rw [hOptional] at hForm
      exact .of_mem (failsIn_ofNodes hPlaced places arguments hArguments)
        (.nodeArgument (by simp [hForm]) (by simp [hForm]))
    next hUnion =>
      obtain hArguments | ⟨_, -, ⟨⟩⟩ := Sequence.bind_eq_error_iff.1 h
      rw [hUnion] at hForm
      exact .of_mem (failsIn_ofNodes hPlaced places arguments hArguments)
        (.nodeArgument (by simp [hForm]) (by simp [hForm]))
    next =>
      split at h
      next => cases h
      next =>
        cases h
        exact .inl rfl
    next hAnnotated =>
      rw [hAnnotated] at hForm
      split at h
      next base notes =>
        exact .step (.nodeBase hForm) (failsIn_ofNode hPlaced places base h)
      next =>
        cases h
        exact (Escapes.annotated hForm).failsIn
    next hOrdinary =>
      rw [hOrdinary] at hForm
      obtain hOrigin | ⟨base, -, hRest⟩ := Sequence.bind_eq_error_iff.1 h
      · exact .step (.nodeOrigin hForm) (failsIn_ofName hPlaced places origin hOrigin)
      obtain hUnnamed | ⟨named, -, hRest⟩ := Sequence.bind_eq_error_iff.1 hRest
      · exact failsIn_of_originOf hUnnamed
      obtain hArguments | ⟨_, -, ⟨⟩⟩ := Sequence.bind_eq_error_iff.1 hRest
      exact .of_mem (failsIn_ofNodes hPlaced places arguments hArguments)
        (.nodeArgument (by simp [hForm]) (by simp [hForm]))
termination_by (places.length, node.size literalSize, sizeOf node)
decreasing_by
  all_goals
    subst_vars
    first
    | (refine lt_of_shorter ?_; simp [Node.size, literalSize, Text.BrokenText.masked]; done)
    | exact lt_of_part (by simp [Node.size, Node.totalSize] <;> omega) (by simp <;> omega)

theorem failsIn_ofNodes (hPlaced : IsPlaced ns) (places : List Place) (nodes : List (Node Value))
    (h : ofNodes ns places nodes = .error failure) :
    ∃ node ∈ nodes, FailsIn ns places failure (.node node) := by
  cases nodes with
  | nil =>
    rw [ofNodes] at h
    cases h
  | cons node nodes =>
    rw [ofNodes] at h
    obtain hHere | ⟨_, -, hRest⟩ := Sequence.bind_eq_error_iff.1 h
    · exact ⟨node, List.mem_cons_self, failsIn_ofNode hPlaced places node hHere⟩
    · obtain hThere | ⟨_, -, ⟨⟩⟩ := Sequence.bind_eq_error_iff.1 hRest
      obtain ⟨part, hMem, hFails⟩ := failsIn_ofNodes hPlaced places nodes hThere
      exact ⟨part, List.mem_cons_of_mem _ hMem, hFails⟩
termination_by (places.length, Node.totalSize literalSize nodes, sizeOf nodes)
decreasing_by
  all_goals
    subst_vars
    exact lt_of_part (by simp [Node.totalSize]) (by simp <;> omega)

theorem failsIn_ofName (hPlaced : IsPlaced ns) (places : List Place) (dotted : String)
    (h : ofName ns places dotted = .error failure) : FailsIn ns places failure (.name dotted) := by
  rw [ofName] at h
  split at h
  next => cases h
  next found hFind =>
    split at h
    next hTextless =>
      exact .step (.found hFind) (failsIn_ofObject hPlaced places found.object h)
    next hText =>
      obtain ⟨place, -, hPlace⟩ := hPlaced hFind hText
      rw [hPlace] at h
      dsimp only at h
      split at h
      next hMem =>
        exact .visit hFind hPlace (failsIn_ofObject hPlaced (places.erase place) found.object h)
      next hVisited =>
        cases h
        exact .inr ⟨_, .refl, .inr (.of hFind hText hPlace hVisited)⟩
termination_by (places.length, 1, 0)
decreasing_by
  · exact lt_of_visit ‹_›
  · exact lt_of_shorter (by omega)

end

/-- A conversion fails with a report, or for what it has come to. -/
theorem failure_of_toType {object : Object} (hPlaced : IsPlaced ns)
    (h : object.toType ns = .error failure) :
    failure.isIntrospection = true ∨
      ∃ culprit, Reaches ns (.object object) culprit ∧ Escapes ns failure culprit := by
  obtain hReported | ⟨culprit, hReaches, hEscapes | hVisited⟩ :=
    failsIn_ofObject hPlaced ns.places object h
  · exact .inl hReported
  · exact .inr ⟨culprit, hReaches, hEscapes⟩
  · cases hVisited with
    | of hFind hText hPlace hVisited =>
      obtain ⟨place, hMem, hSame⟩ := hPlaced hFind hText
      cases hPlace.symm.trans hSame
      exact absurd hMem hVisited

end Interpose.Conversion

import Interpose.Proofs.Conversion.Ranking
import Interpose.Proofs.Conversion.Unguarded

/-! # Where the conversion without a guard ends

The recursion ends on something if it ends on all that one step leads to, the class that marks
classes as generic excepted. So it ends wherever no endless row of steps starts, and that class is
not come to.
-/
namespace Interpose.Conversion

set_option autoImplicit false

open HintText

/-! ## From parts to the whole -/

/-- Whether the recursion ends on something. -/
def EndsOn (ns : Namespace) : Subject → Prop
  | .object whole => Ends fun depth => Unguarded.ofObject ns depth whole
  | .value whole => Ends fun depth => Unguarded.ofValue ns depth whole
  | .text whole => ∀ shown, Ends fun depth => Unguarded.ofText ns depth whole shown
  | .node whole => Ends fun depth => Unguarded.ofNode ns depth whole
  | .name dotted => Ends fun depth => Unguarded.ofName ns depth dotted

/-- The class that marks classes as generic, by itself or behind an alias. -/
inductive IsGenericClass : Subject → Prop where
  | value : IsGenericClass (.value (.cls ClassRef.genericClass))
  | aliased (form : String) : IsGenericClass (.object (.alias form ClassRef.genericClass))

theorem ends_ofClass {c : ClassRef} (h : c ≠ ClassRef.genericClass) :
    Ends fun depth => Unguarded.ofClass depth c := by
  refine .deeper ?_
  simp only [Unguarded.ofClass, if_neg h]
  split
  · exact .const _
  · exact .const _

variable {ns : Namespace}

theorem ends_ofObject {object : Object}
    (hParts : ∀ part, Leads ns (.object object) part → EndsOn ns part)
    (hPlain : ¬ IsGenericClass (.object object)) :
    Ends fun depth => Unguarded.ofObject ns depth object := by
  refine .deeper ?_
  cases object with
  | value v => exact hParts _ (.value v)
  | typeVariable | variablePart | special | literal | newType | module | routine | tuple =>
    exact .const _
  | «alias» form origin => exact ends_ofClass fun hGeneric => hPlain (hGeneric ▸ .aliased form)
  | union typed members =>
    simp only [Unguarded.ofObject]
    exact (Ends.mapM fun member hMem => hParts _ (.unionMember hMem)).bind fun types => .const _
  | annotated base notes => exact hParts _ (.base base notes)
  | generic typed origin arguments =>
    have hOrigin : Ends fun depth => Unguarded.ofObject ns depth origin :=
      hParts _ (.origin typed origin arguments)
    have hArguments : Ends fun depth => arguments.mapM (Unguarded.ofObject ns depth) :=
      .mapM fun argument hMem => hParts _ (.argument hMem)
    simp only [Unguarded.ofObject]
    refine hOrigin.bind fun type => ?_
    split
    next => exact .const _
    next => exact hArguments.bind fun types => .const _
    next => exact .const _
  | list items =>
    simp only [Unguarded.ofObject]
    exact (Ends.mapM fun item hMem => hParts _ (.item hMem)).bind fun types => .const _
  | forward text => exact hParts _ (.forward text) _

theorem ends_ofValue {value : Value}
    (hParts : ∀ part, Leads ns (.value value) part → EndsOn ns part)
    (hPlain : ¬ IsGenericClass (.value value)) :
    Ends fun depth => Unguarded.ofValue ns depth value := by
  refine .deeper ?_
  simp only [Unguarded.ofValue]
  split
  next => exact .const _
  next => exact .const _
  next s => exact hParts _ (.valueText rfl) _
  next s => exact hParts _ (.valueText rfl) _
  next s => exact hParts _ (.valueText rfl) _
  next t => exact hParts _ (.valueText rfl) _
  next c => exact ends_ofClass fun hGeneric => hPlain (hGeneric ▸ .value)
  next items =>
    exact (Ends.mapM fun item hMem => hParts _ (.valueItem hMem)).bind fun types => .const _
  next => exact .const _

theorem ends_ofText {text : String} (hParts : ∀ part, Leads ns (.text text) part → EndsOn ns part)
    (shown : String) : Ends fun depth => Unguarded.ofText ns depth text shown := by
  refine .deeper ?_
  simp only [Unguarded.ofText]
  cases hParsed : HintText.parseShown text shown with
  | error failure => exact .const _
  | ok node => exact hParts _ (.tree (parse_of_parseShown hParsed))

theorem ends_mapM_ofNode {whole : Subject} {nodes : List (Node Value)}
    (hParts : ∀ part, Leads ns whole part → EndsOn ns part)
    (hLeads : ∀ {node : Node Value}, node ∈ nodes → Leads ns whole (.node node)) :
    Ends fun depth => nodes.mapM (Unguarded.ofNode ns depth) :=
  .mapM fun _ hMem => hParts _ (hLeads hMem)

theorem ends_ofNode {node : Node Value}
    (hParts : ∀ part, Leads ns (.node node) part → EndsOn ns part) :
    Ends fun depth => Unguarded.ofNode ns depth node := by
  refine .deeper ?_
  simp only [Unguarded.ofNode]
  split
  next dotted =>
    split
    next => exact .const _
    next hRelative =>
      split
      next => exact .const _
      next hNone =>
        have hOther : dotted ∉ relativeNames := fun hMem =>
          hRelative (List.contains_iff_mem.2 hMem)
        exact hParts _ (.name hOther hNone)
  next members => exact (ends_mapM_ofNode hParts .member).bind fun types => .const _
  next members => exact (ends_mapM_ofNode hParts .operand).bind fun types => .const _
  next items => exact (ends_mapM_ofNode hParts .entry).bind fun types => .const _
  next => exact .const _
  next s => exact hParts _ (.quoted rfl) _
  next t => exact hParts _ (.quoted rfl) _
  next => exact .const _
  next origin arguments =>
    have hForm : formIn ns origin arguments =
        subscriptForm ((ns.find origin).map Found.object) arguments.length := rfl
    split
    next hOptional =>
      rw [hOptional] at hForm
      exact (ends_mapM_ofNode hParts (.nodeArgument (by simp [hForm]) (by simp [hForm]))).bind
        fun types => .const _
    next hUnion =>
      rw [hUnion] at hForm
      exact (ends_mapM_ofNode hParts (.nodeArgument (by simp [hForm]) (by simp [hForm]))).bind
        fun types => .const _
    next =>
      split
      next => exact .const _
      next => exact .const _
    next hAnnotated =>
      rw [hAnnotated] at hForm
      split
      next argument notes => exact hParts _ (.nodeBase hForm)
      next => exact .const _
    next hOrdinary =>
      rw [hOrdinary] at hForm
      have hOrigin : Ends fun depth => Unguarded.ofName ns depth origin :=
        hParts _ (.nodeOrigin hForm)
      exact hOrigin.bind fun base => (Ends.lift _).bind fun named =>
        (ends_mapM_ofNode hParts (.nodeArgument (by simp [hForm]) (by simp [hForm]))).bind
          fun types => .const _

theorem ends_ofName {dotted : String}
    (hParts : ∀ part, Leads ns (.name dotted) part → EndsOn ns part) :
    Ends fun depth => Unguarded.ofName ns depth dotted := by
  refine .deeper ?_
  simp only [Unguarded.ofName]
  split
  next => exact .const _
  next found hFind => exact hParts _ (.found hFind)

/-- The recursion ends on something if it ends on all that one step leads to. -/
theorem endsOn_of_parts {subject : Subject} (hPlain : ¬ IsGenericClass subject)
    (hParts : ∀ part, Leads ns subject part → EndsOn ns part) : EndsOn ns subject := by
  cases subject with
  | object object => exact ends_ofObject hParts hPlain
  | value v => exact ends_ofValue hParts hPlain
  | text text => exact ends_ofText hParts
  | node node => exact ends_ofNode hParts
  | name dotted => exact ends_ofName hParts

/-! ## From grounds to the end -/

/-- Whether nothing that is come to is the class that marks classes as generic. -/
def IsPlain (ns : Namespace) (subject : Subject) : Prop :=
  ∀ part, Reaches ns subject part → ¬ IsGenericClass part

theorem IsPlain.part {whole part : Subject} (h : IsPlain ns whole) (hLeads : Leads ns whole part) :
    IsPlain ns part :=
  fun other hReaches => h other (.head hLeads hReaches)

theorem IsGrounded.endsOn {subject : Subject} (hGrounded : IsGrounded ns subject)
    (hPlain : IsPlain ns subject) : EndsOn ns subject := by
  induction hGrounded with
  | intro subject _ ih =>
    refine endsOn_of_parts (hPlain subject .refl) fun part hLeads => ?_
    exact ih part hLeads (hPlain.part hLeads)

/-- No row of steps leads back to where it has started. -/
theorem IsGrounded.not_transGen {subject : Subject} (h : IsGrounded ns subject) :
    ¬ Relation.TransGen (Leads ns) subject subject := by
  induction h with
  | intro subject _ ih =>
    intro hRow
    obtain ⟨part, hLeads, hReaches⟩ := Relation.TransGen.head'_iff.1 hRow
    exact ih part hLeads (.tail' hReaches hLeads)

end Interpose.Conversion

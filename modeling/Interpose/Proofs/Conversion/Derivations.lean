import Interpose.Proofs.Conversion.Failures

/-! # Conversions as derivations

What an annotation is converted to, as a relation: the rules by which the type of an annotation
comes from the types of its parts. The rules do not mention the places that are visited, so a
property of all conversions is proved by one case for each rule.
-/
namespace Interpose.Conversion

set_option autoImplicit false

open HintText

/-- The text that a literal of an annotation quotes. -/
def quotedText? : Value → Option String
  | .str s => some s
  | .brokenStr t => some (String.ofList t.masked)
  | _ => none

/-- The rules of conversion. Where the parts of a list are converted, each part stands with its
type. -/
inductive Converts (ns : Namespace) : Subject → TypeExpr → Prop where
  | value {v : Value} {t : TypeExpr} (h : Converts ns (.value v) t) :
      Converts ns (.object (.value v)) t
  | typeVariable (v : TypeVariable) :
      Converts ns (.object (.typeVariable v)) (.named (variableType ns v))
  | variablePart (v : TypeVariable) (keyword : Bool) :
      Converts ns (.object (.variablePart v keyword)) (.named (variablePartType ns v keyword))
  | special (name : String) : Converts ns (.object (.special name)) (.named (specialType name))
  | aliased {form : String} {origin : ClassRef} {t : TypeExpr} (h : classType origin = .ok t) :
      Converts ns (.object (.alias form origin)) t
  | alternatives {typed : Bool} {parts : List (Object × TypeExpr)}
      (h : ∀ part ∈ parts, Converts ns (.object part.1) part.2) :
      Converts ns (.object (.union typed (parts.map Prod.fst))) (.unite (parts.map Prod.snd))
  | literals (values : List Value) : Converts ns (.object (.literal values)) (literalType values)
  | base {base : Object} {notes : List Object} {t : TypeExpr} (h : Converts ns (.object base) t) :
      Converts ns (.object (.annotated base notes)) t
  | bare {typed : Bool} {origin : Object} {t : TypeExpr} (h : Converts ns (.object origin) t) :
      Converts ns (.object (.generic typed origin [])) t
  | generic {typed : Bool} {origin : Object} {t : NamedType} {parts : List (Object × TypeExpr)}
      (hOrigin : Converts ns (.object origin) (.named t)) (hSome : parts ≠ [])
      (h : ∀ part ∈ parts, Converts ns (.object part.1) part.2) :
      Converts ns (.object (.generic typed origin (parts.map Prod.fst)))
        (.generic t (parts.map Prod.snd) false)
  | items {parts : List (Object × TypeExpr)}
      (h : ∀ part ∈ parts, Converts ns (.object part.1) part.2) :
      Converts ns (.object (.list (parts.map Prod.fst))) (.list (parts.map Prod.snd))
  | forward {text : String} {t : TypeExpr} (h : Converts ns (.text text) t) :
      Converts ns (.object (.forward text)) t
  | none : Converts ns (.value .none) (.named .none)
  | ellipsis : Converts ns (.value .ellipsis) (.named (.builtin "..."))
  | valueText {v : Value} {text : String} {t : TypeExpr} (hText : textOf? v = some text)
      (h : Converts ns (.text text) t) : Converts ns (.value v) t
  | cls {c : ClassRef} {t : TypeExpr} (h : classType c = .ok t) : Converts ns (.value (.cls c)) t
  | valueItems {parts : List (Value × TypeExpr)}
      (h : ∀ part ∈ parts, Converts ns (.value part.1) part.2) :
      Converts ns (.value (.list (parts.map Prod.fst))) (.list (parts.map Prod.snd))
  | tree {text : String} {node : Node Value} {t : TypeExpr}
      (hParsed : HintText.parse text = .ok node) (h : Converts ns (.node node) t) :
      Converts ns (.text text) t
  | relative {dotted : String} (h : dotted ∈ relativeNames) :
      Converts ns (.node (.name dotted)) (.named (.unresolved dotted))
  | noneName : Converts ns (.node (.name "None")) (.named .none)
  | name {dotted : String} {t : TypeExpr} (hRelative : dotted ∉ relativeNames)
      (hNone : dotted ≠ "None") (h : Converts ns (.name dotted) t) :
      Converts ns (.node (.name dotted)) t
  | members {parts : List (Node Value × TypeExpr)}
      (h : ∀ part ∈ parts, Converts ns (.node part.1) part.2) :
      Converts ns (.node (.union (parts.map Prod.fst))) (.unite (parts.map Prod.snd))
  | operands {parts : List (Node Value × TypeExpr)}
      (h : ∀ part ∈ parts, Converts ns (.node part.1) part.2) :
      Converts ns (.node (.intersection (parts.map Prod.fst))) (.intersection (parts.map Prod.snd))
  | entries {parts : List (Node Value × TypeExpr)}
      (h : ∀ part ∈ parts, Converts ns (.node part.1) part.2) :
      Converts ns (.node (.list (parts.map Prod.fst))) (.list (parts.map Prod.snd))
  | dots : Converts ns (.node .ellipsis) (.named (.builtin "..."))
  | quoted {v : Value} {text : String} {t : TypeExpr} (hText : quotedText? v = some text)
      (h : Converts ns (.text text) t) : Converts ns (.node (.literal v)) t
  | literal {v : Value} (hText : quotedText? v = Option.none) :
      Converts ns (.node (.literal v)) (.literal v)
  | optional {origin : String} {parts : List (Node Value × TypeExpr)}
      (hForm : formIn ns origin (parts.map Prod.fst) = .optional)
      (h : ∀ part ∈ parts, Converts ns (.node part.1) part.2) :
      Converts ns (.node (.subscript origin (parts.map Prod.fst)))
        (.unite (parts.map Prod.snd ++ [.named .none]))
  | union {origin : String} {parts : List (Node Value × TypeExpr)}
      (hForm : formIn ns origin (parts.map Prod.fst) = .union)
      (h : ∀ part ∈ parts, Converts ns (.node part.1) part.2) :
      Converts ns (.node (.subscript origin (parts.map Prod.fst))) (.unite (parts.map Prod.snd))
  | literalForm {origin : String} {values : List Value}
      (hForm : formIn ns origin (values.map .literal) = .literal) :
      Converts ns (.node (.subscript origin (values.map .literal))) (literalType values)
  | annotated {origin : String} {base : Node Value} {notes : List (Node Value)} {t : TypeExpr}
      (hForm : formIn ns origin (base :: notes) = .annotated) (h : Converts ns (.node base) t) :
      Converts ns (.node (.subscript origin (base :: notes))) t
  | ordinary {origin : String} {base : TypeExpr} {t : NamedType}
      {parts : List (Node Value × TypeExpr)}
      (hForm : formIn ns origin (parts.map Prod.fst) = .ordinary)
      (hOrigin : Converts ns (.name origin) base)
      (hNamed : originOf (Text.quote origin) base = .ok t)
      (h : ∀ part ∈ parts, Converts ns (.node part.1) part.2) :
      Converts ns (.node (.subscript origin (parts.map Prod.fst)))
        (.generic t (parts.map Prod.snd) false)
  | unbound {dotted : String} (h : ns.find dotted = Option.none) :
      Converts ns (.name dotted) (.named (.unresolved dotted))
  | found {dotted : String} {found : Found} {t : TypeExpr} (hFind : ns.find dotted = some found)
      (h : Converts ns (.object found.object) t) : Converts ns (.name dotted) t

variable {ns : Namespace}

theorem eq_map_of_literalValues? {nodes : List (Node Value)} {values : List Value}
    (h : literalValues? nodes = some values) : nodes = values.map .literal := by
  induction nodes generalizing values with
  | nil =>
    cases h
    rfl
  | cons node nodes ih =>
    rw [literalValues?, List.mapM_cons] at h
    obtain ⟨v, hNode, h⟩ := Option.bind_eq_some_iff.1 h
    obtain ⟨values, hNodes, ⟨⟩⟩ := Option.bind_eq_some_iff.1 h
    have hLiteral : node = .literal v := by
      cases node with
      | literal =>
        cases hNode
        rfl
      | _ => cases hNode
    rw [hLiteral, ih hNodes, List.map_cons]

/-- Whether some things are converted to some types, one by one. -/
def ConvertAll {α : Type} (ns : Namespace) (asSubject : α → Subject) (xs : List α)
    (types : List TypeExpr) : Prop :=
  ∃ parts : List (α × TypeExpr), parts.map Prod.fst = xs ∧ parts.map Prod.snd = types ∧
    ∀ part ∈ parts, Converts ns (asSubject part.1) part.2

theorem ConvertAll.nil {α : Type} {asSubject : α → Subject} :
    ConvertAll ns asSubject [] [] :=
  ⟨[], rfl, rfl, List.forall_mem_nil _⟩

theorem ConvertAll.cons {α : Type} {asSubject : α → Subject} {x : α} {xs : List α} {t : TypeExpr}
    {types : List TypeExpr} (h : Converts ns (asSubject x) t)
    (hMore : ConvertAll ns asSubject xs types) :
    ConvertAll ns asSubject (x :: xs) (t :: types) := by
  obtain ⟨parts, rfl, rfl, hParts⟩ := hMore
  exact ⟨(x, t) :: parts, rfl, rfl, List.forall_mem_cons.2 ⟨h, hParts⟩⟩

mutual

theorem converts_ofObject (places : List Place) (object : Object) {t : TypeExpr}
    (h : ofObject ns places object = .ok t) : Converts ns (.object object) t := by
  cases object with
  | value v =>
    rw [ofObject] at h
    exact .value (converts_ofValue places v h)
  | typeVariable | variablePart | special | literal =>
    rw [ofObject] at h
    cases h
    constructor
  | «alias» form origin =>
    rw [ofObject] at h
    exact .aliased h
  | newType | module | routine | tuple =>
    rw [ofObject] at h
    cases h
  | union typed members =>
    rw [ofObject] at h
    obtain ⟨types, hTypes, ⟨⟩⟩ := Sequence.bind_eq_ok_iff.1 h
    obtain ⟨parts, rfl, rfl, hParts⟩ := converts_ofObjects places members hTypes
    exact .alternatives hParts
  | annotated base notes =>
    rw [ofObject] at h
    exact .base (converts_ofObject places base h)
  | generic typed origin arguments =>
    rw [ofObject.eq_def] at h
    dsimp only at h
    obtain ⟨type, hType, hRest⟩ := Sequence.bind_eq_ok_iff.1 h
    have hOrigin := converts_ofObject places origin hType
    split at hRest
    next =>
      cases hRest
      exact .bare hOrigin
    next hSome =>
      obtain ⟨types, hTypes, ⟨⟩⟩ := Sequence.bind_eq_ok_iff.1 hRest
      obtain ⟨parts, hParts, rfl, hAll⟩ := converts_ofObjects places arguments hTypes
      subst hParts
      exact .generic hOrigin (fun hNil => hSome (congrArg _ hNil)) hAll
    next => cases hRest
  | list items =>
    rw [ofObject] at h
    obtain ⟨types, hTypes, ⟨⟩⟩ := Sequence.bind_eq_ok_iff.1 h
    obtain ⟨parts, rfl, rfl, hParts⟩ := converts_ofObjects places items hTypes
    exact .items hParts
  | forward text =>
    rw [ofObject] at h
    exact .forward (converts_ofText places text _ h)
termination_by (places.length, object.textSize, sizeOf object)
decreasing_by
  all_goals
    subst_vars
    refine lt_of_part ?_ ?_ <;> simp [Object.textSize] <;> omega

theorem converts_ofObjects (places : List Place) (objects : List Object) {types : List TypeExpr}
    (h : ofObjects ns places objects = .ok types) :
    ConvertAll ns .object objects types := by
  cases objects with
  | nil =>
    rw [ofObjects] at h
    cases h
    exact .nil
  | cons object objects =>
    rw [ofObjects] at h
    obtain ⟨t, hHere, hRest⟩ := Sequence.bind_eq_ok_iff.1 h
    obtain ⟨types, hThere, ⟨⟩⟩ := Sequence.bind_eq_ok_iff.1 hRest
    exact .cons (converts_ofObject places object hHere) (converts_ofObjects places objects hThere)
termination_by (places.length, Object.totalTextSize objects, sizeOf objects)
decreasing_by
  all_goals
    subst_vars
    exact lt_of_part (by simp [Object.totalTextSize]) (by simp <;> omega)

theorem converts_ofValue (places : List Place) (value : Value) {t : TypeExpr}
    (h : ofValue ns places value = .ok t) : Converts ns (.value value) t := by
  rw [ofValue.eq_def] at h
  split at h
  next =>
    cases h
    exact .none
  next =>
    cases h
    exact .ellipsis
  next s => exact .valueText rfl (converts_ofText places s _ h)
  next s => exact .valueText rfl (converts_ofText places s _ h)
  next s => exact .valueText rfl (converts_ofText places s _ h)
  next t => exact .valueText rfl (converts_ofText places _ _ h)
  next c => exact .cls h
  next items =>
    obtain ⟨types, hTypes, ⟨⟩⟩ := Sequence.bind_eq_ok_iff.1 h
    obtain ⟨parts, rfl, rfl, hParts⟩ := converts_ofValues places items hTypes
    exact .valueItems hParts
  next => cases h
termination_by (places.length, value.textSize, sizeOf value)
decreasing_by
  all_goals
    subst_vars
    first
    | (refine lt_of_shorter ?_; simp [Value.textSize, Text.BrokenText.masked]; done)
    | (refine lt_of_part ?_ ?_ <;> simp [Value.textSize])

theorem converts_ofValues (places : List Place) (values : List Value) {types : List TypeExpr}
    (h : ofValues ns places values = .ok types) : ConvertAll ns .value values types := by
  cases values with
  | nil =>
    rw [ofValues] at h
    cases h
    exact .nil
  | cons v values =>
    rw [ofValues] at h
    obtain ⟨t, hHere, hRest⟩ := Sequence.bind_eq_ok_iff.1 h
    obtain ⟨types, hThere, ⟨⟩⟩ := Sequence.bind_eq_ok_iff.1 hRest
    exact .cons (converts_ofValue places v hHere) (converts_ofValues places values hThere)
termination_by (places.length, Value.totalTextSize values, sizeOf values)
decreasing_by
  all_goals
    subst_vars
    exact lt_of_part (by simp [Value.totalTextSize]) (by simp <;> omega)

theorem converts_ofText (places : List Place) (text shown : String) {t : TypeExpr}
    (h : ofText ns places text shown = .ok t) : Converts ns (.text text) t := by
  rw [ofText] at h
  split at h
  next node hParsed =>
    exact .tree (parse_of_parseShown hParsed) (converts_ofNode places node h)
  next => cases h
termination_by (places.length, text.toList.length + 1, 0)
decreasing_by exact lt_of_shorter (Nat.lt_succ_of_le (HintText.size_parseShown ‹_›))

theorem converts_ofNode (places : List Place) (node : Node Value) {t : TypeExpr}
    (h : ofNode ns places node = .ok t) : Converts ns (.node node) t := by
  rw [ofNode.eq_def] at h
  split at h
  next dotted =>
    split at h
    next hRelative =>
      cases h
      exact .relative (List.contains_iff_mem.1 hRelative)
    next hRelative =>
      split at h
      next hNone =>
        cases h
        exact hNone ▸ .noneName
      next hNone =>
        have hOther : dotted ∉ relativeNames := fun hMem =>
          hRelative (List.contains_iff_mem.2 hMem)
        exact .name hOther hNone (converts_ofName places dotted h)
  next members =>
    obtain ⟨types, hTypes, ⟨⟩⟩ := Sequence.bind_eq_ok_iff.1 h
    obtain ⟨parts, rfl, rfl, hParts⟩ := converts_ofNodes places members hTypes
    exact .members hParts
  next members =>
    obtain ⟨types, hTypes, ⟨⟩⟩ := Sequence.bind_eq_ok_iff.1 h
    obtain ⟨parts, rfl, rfl, hParts⟩ := converts_ofNodes places members hTypes
    exact .operands hParts
  next items =>
    obtain ⟨types, hTypes, ⟨⟩⟩ := Sequence.bind_eq_ok_iff.1 h
    obtain ⟨parts, rfl, rfl, hParts⟩ := converts_ofNodes places items hTypes
    exact .entries hParts
  next =>
    cases h
    exact .dots
  next s => exact .quoted rfl (converts_ofText places s _ h)
  next t => exact .quoted rfl (converts_ofText places _ _ h)
  next v hText hBroken =>
    cases h
    refine .literal ?_
    cases v with
    | str s => exact absurd rfl (hText s)
    | brokenStr t => exact absurd rfl (hBroken t)
    | _ => rfl
  next origin arguments =>
    have hForm : formIn ns origin arguments =
        subscriptForm ((ns.find origin).map Found.object) arguments.length := rfl
    split at h
    next hOptional =>
      obtain ⟨types, hTypes, ⟨⟩⟩ := Sequence.bind_eq_ok_iff.1 h
      obtain ⟨parts, rfl, rfl, hParts⟩ := converts_ofNodes places arguments hTypes
      rw [hOptional] at hForm ⊢
      exact .optional hForm hParts
    next hUnion =>
      obtain ⟨types, hTypes, ⟨⟩⟩ := Sequence.bind_eq_ok_iff.1 h
      obtain ⟨parts, rfl, rfl, hParts⟩ := converts_ofNodes places arguments hTypes
      rw [hUnion] at hForm ⊢
      exact .union hForm hParts
    next hLiteral =>
      split at h
      next values hValues =>
        cases h
        obtain rfl := eq_map_of_literalValues? hValues
        exact .literalForm (hForm.trans hLiteral)
      next => cases h
    next hAnnotated =>
      rw [hAnnotated] at hForm
      split at h
      next base notes => exact .annotated hForm (converts_ofNode places base h)
      next => cases h
    next hOrdinary =>
      obtain ⟨base, hBase, hRest⟩ := Sequence.bind_eq_ok_iff.1 h
      obtain ⟨named, hNamed, hRest⟩ := Sequence.bind_eq_ok_iff.1 hRest
      obtain ⟨types, hTypes, ⟨⟩⟩ := Sequence.bind_eq_ok_iff.1 hRest
      obtain ⟨parts, hParts, rfl, hAll⟩ := converts_ofNodes places arguments hTypes
      have hOrigin := converts_ofName places origin hBase
      subst hParts
      exact .ordinary (hForm.trans hOrdinary) hOrigin hNamed hAll
termination_by (places.length, node.size literalSize, sizeOf node)
decreasing_by
  all_goals
    subst_vars
    first
    | (refine lt_of_shorter ?_; simp [Node.size, literalSize, Text.BrokenText.masked]; done)
    | exact lt_of_part (by simp [Node.size, Node.totalSize] <;> omega) (by simp <;> omega)

theorem converts_ofNodes (places : List Place) (nodes : List (Node Value)) {types : List TypeExpr}
    (h : ofNodes ns places nodes = .ok types) : ConvertAll ns .node nodes types := by
  cases nodes with
  | nil =>
    rw [ofNodes] at h
    cases h
    exact .nil
  | cons node nodes =>
    rw [ofNodes] at h
    obtain ⟨t, hHere, hRest⟩ := Sequence.bind_eq_ok_iff.1 h
    obtain ⟨types, hThere, ⟨⟩⟩ := Sequence.bind_eq_ok_iff.1 hRest
    exact .cons (converts_ofNode places node hHere) (converts_ofNodes places nodes hThere)
termination_by (places.length, Node.totalSize literalSize nodes, sizeOf nodes)
decreasing_by
  all_goals
    subst_vars
    exact lt_of_part (by simp [Node.totalSize]) (by simp <;> omega)

theorem converts_ofName (places : List Place) (dotted : String) {t : TypeExpr}
    (h : ofName ns places dotted = .ok t) : Converts ns (.name dotted) t := by
  rw [ofName] at h
  split at h
  next hFind =>
    cases h
    exact .unbound hFind
  next found hFind =>
    split at h
    next hTextless => exact .found hFind (converts_ofObject places found.object h)
    next hText =>
      split at h
      next place hPlace =>
        split at h
        next hMem => exact .found hFind (converts_ofObject (places.erase place) found.object h)
        next => cases h
      next => cases h
termination_by (places.length, 1, 0)
decreasing_by
  · exact lt_of_visit ‹_›
  · exact lt_of_shorter (by omega)

end

/-- Whatever an annotation is converted to, is so by the rules. -/
theorem converts_of_toType {object : Object} {t : TypeExpr} (h : object.toType ns = .ok t) :
    Converts ns (.object object) t :=
  converts_ofObject ns.places object h

end Interpose.Conversion

import Interpose.Instance
import Interpose.Proofs.ClosedText
import Interpose.Proofs.ParameterList

/-! # Reading parameter lists and arguments

Parameters and arguments are texts in a generated module. A reader cuts a text at the commas outside
of brackets and quotes, takes the asterisks from each part, and cuts what is left at the first
equals sign and colon. Reading what has been written for some parameters gives back their names,
their kinds as far as the marks tell them, and the texts of their default values; reading what has
been written for some arguments gives back each of them.
-/
namespace Interpose

set_option autoImplicit false

/-! ## Parts of a text -/

namespace Text

/-- The asterisks that some characters start with, as the kind of parameter that they mark, and what
follows them. -/
def takeStars : List Char → ParameterKind × List Char
  | '*' :: '*' :: cs => (.varKeyword, cs)
  | '*' :: cs => (.varPositional, cs)
  | cs => (.positionalOrKeyword, cs)

/-- What stands before a mark, and what stands behind it if there is one. -/
def halves? (mark : Char) (cs : List Char) : Option (List Char × Option (List Char)) :=
  match cutOutside mark (.outside 0) cs with
  | some [all] => some (all, none)
  | some [before, after] => some (before, some after)
  | _ => none

def name? (cs : List Char) : Option String :=
  if isName (String.ofList cs) then some (String.ofList cs) else none

def dropBlanks (cs : List Char) : List Char :=
  cs.dropWhile (· == ' ')

/-- The parts of a text between commas, each without the blanks in front of it. -/
def parts? (text : String) : Option (List (List Char)) :=
  (cutOutside ',' (.outside 0) text.toList).map fun parts => parts.map dropBlanks

variable {mark : Char} {cs ds : List Char} {name : String}

theorem halves?_of_isClosed (h : IsClosed [mark] cs) : halves? mark cs = some (cs, none) := by
  rw [halves?, cutOutside_of_isClosed h]

theorem halves?_append (h : IsClosed [mark] cs) (h' : IsClosed [mark] ds) :
    halves? mark (cs ++ mark :: ds) = some (cs, some ds) := by
  rw [halves?, cutOutside_of_isClosed_append h (cutOutside_of_isClosed h')]

theorem name?_toList (h : isName name = true) : name? name.toList = some name := by
  rw [name?, String.ofList_toList, if_pos h]

theorem dropBlanks_of_head? (h : cs.head? ≠ some ' ') : dropBlanks cs = cs := by
  cases cs with
  | nil => rfl
  | cons c cs =>
    rw [List.head?_cons, ne_eq, Option.some.injEq] at h
    exact List.dropWhile_cons_of_neg (by simpa using h)

theorem dropBlanks_cons (h : cs.head? ≠ some ' ') : dropBlanks (' ' :: cs) = cs :=
  (List.dropWhile_cons_of_pos rfl).trans (dropBlanks_of_head? h)

/-- The first character of a name. -/
theorem head_of_isName (h : isName name = true) :
    ∃ c cs, name.toList = c :: cs ∧ isIdentifierStart c = true := by
  rw [isName, Bool.and_eq_true, isIdentifier] at h
  cases hChars : name.toList with
  | nil => simp [hChars] at h
  | cons c cs =>
    rw [hChars, Bool.and_eq_true] at h
    exact ⟨c, cs, rfl, h.1.1⟩

/-- A name does not start with what is no part of names. -/
theorem head?_of_isName (h : isName name = true) {c : Char} (hOther : isIdentifierStart c = false)
    (ds : List Char) : (name.toList ++ ds).head? ≠ some c := by
  obtain ⟨first, cs, hChars, hStart⟩ := head_of_isName h
  rw [hChars, List.cons_append, List.head?_cons, ne_eq, Option.some.injEq]
  rintro rfl
  rw [hOther] at hStart
  cases hStart

theorem takeStars_of_head? (h : cs.head? ≠ some '*') :
    takeStars cs = (.positionalOrKeyword, cs) := by
  fun_cases takeStars cs with
  | case1 | case2 => exact absurd rfl h
  | case3 => rfl

theorem takeStars_cons (h : cs.head? ≠ some '*') :
    takeStars ('*' :: cs) = (.varPositional, cs) := by
  cases cs with
  | nil => rfl
  | cons c cs =>
    rw [takeStars]
    rintro ds ⟨⟩
    exact h rfl

/-- A row of closed texts is cut back into them. -/
theorem parts?_intercalate {texts : List String} (hSome : texts ≠ [])
    (hClosed : ∀ text ∈ texts, IsClosed [','] text.toList)
    (hBlank : ∀ text ∈ texts, text.toList.head? ≠ some ' ') :
    parts? (", ".intercalate texts) = some (texts.map String.toList) := by
  cases texts with
  | nil => exact absurd rfl hSome
  | cons first others =>
    obtain ⟨hFirst, hOthers⟩ := List.forall_mem_cons.1 hBlank
    rw [parts?, cutOutside_intercalate hClosed, Option.map_some, List.map_cons, List.map_cons,
      dropBlanks_of_head? hFirst, List.map_map]
    exact congrArg (fun rest => some (first.toList :: rest)) (List.map_congr_left fun text hMem =>
      dropBlanks_cons (hOthers text hMem))

theorem mapM_map_eq_some {α β γ : Type} {f : β → Option γ} {g : α → β} {k : α → γ} {xs : List α}
    (h : ∀ x ∈ xs, f (g x) = some (k x)) : (xs.map g).mapM f = some (xs.map k) := by
  induction xs with
  | nil => rfl
  | cons x xs ih =>
    obtain ⟨hFirst, hOthers⟩ := List.forall_mem_cons.1 h
    rw [List.map_cons, List.mapM_cons, hFirst, ih hOthers]
    rfl

end Text

/-! ## Grammar of a parameter list -/

namespace ParameterKind

/-- What the asterisks of a parameter tell about its kind. -/
def mark (kind : ParameterKind) : ParameterKind :=
  if kind.isVariadic then kind else .positionalOrKeyword

@[simp]
theorem mark_beq_varPositional (kind : ParameterKind) :
    (kind.mark == .varPositional) = (kind == .varPositional) := by
  cases kind <;> rfl

@[simp]
theorem mark_mark (kind : ParameterKind) : kind.mark.mark = kind.mark := by
  cases kind <;> rfl

end ParameterKind

/-- Where a reader of a parameter list is: at its start, among parameters without asterisks, behind
the slash, right behind a star, among parameters that take keywords only, or behind the last. -/
inductive ListZone where
  | start
  | plain
  | slashed
  | star
  | keywords
  | closed
  deriving DecidableEq, Repr

namespace ListZone

def isPositional : ListZone → Bool
  | .start | .plain | .slashed => true
  | .star | .keywords | .closed => false

/-- What may come next: a slash once, behind some parameter; a star once, with a parameter that
takes a keyword right behind it; and nothing behind the parameter for further keywords. -/
def next? (zone : ListZone) : DeclItem ParameterKind → Option ListZone
  | .receiver => none
  | .slash => if zone = .plain then some .slashed else none
  | .star => if zone.isPositional then some .star else none
  | .parameter .varPositional => if zone.isPositional then some .keywords else none
  | .parameter .varKeyword => if zone = .star ∨ zone = .closed then none else some .closed
  | .parameter _ =>
    match zone with
    | .start | .plain => some .plain
    | .slashed => some .slashed
    | .star | .keywords => some .keywords
    | .closed => none

def accepts (zone : ListZone) (items : List (DeclItem ParameterKind)) : Bool :=
  match items.foldlM next? zone with
  | some last => last != .star
  | none => false

theorem accepts_append {zone next : ListZone} {items : List (DeclItem ParameterKind)}
    (h : items.foldlM next? zone = some next) (more : List (DeclItem ParameterKind)) :
    zone.accepts (items ++ more) = next.accepts more := by
  rw [accepts, List.foldlM_append, h]
  rfl

end ListZone

/-! ## Readers -/

/-- A parameter as it is read off its text. -/
structure ReadParameter where
  name : String
  mark : ParameterKind
  default : Option String
  deriving DecidableEq, Repr

def ReadParameter.read? (cs : List Char) : Option ReadParameter := do
  let (mark, cs) := Text.takeStars cs
  let (declared, default) ← Text.halves? '=' cs
  let (name, _) ← Text.halves? ':' declared
  let name ← Text.name? name
  return ⟨name, mark, default.map fun cs => String.ofList (Text.dropBlanks cs)⟩

namespace DeclItem

def read? (cs : List Char) : Option (DeclItem ReadParameter) :=
  if cs = ['/'] then some .slash
  else if cs = ['*'] then some .star
  else (ReadParameter.read? cs).map .parameter

/-- An item as far as the grammar of parameter lists is concerned, where the receiver is a parameter
like any other. -/
def marked {α : Type} (kind : α → ParameterKind) : DeclItem α → DeclItem ParameterKind
  | .receiver => .parameter .positionalOrKeyword
  | .slash => .slash
  | .star => .star
  | .parameter p => .parameter (kind p).mark

end DeclItem

/-- The parameters that the text of a parameter list says there are, where a function says what the
expressions of default values yield; `none` if the text is no parameter list. -/
def readParameters (value : String → Value) (text : String) : Option (List (Formal Value)) := do
  let parts ← Text.parts? text
  let items ← parts.mapM DeclItem.read?
  let formals := readDeclaration ReadParameter.name ReadParameter.mark
    (fun p => p.default.map value) false items
  if ListZone.start.accepts (items.map (DeclItem.marked ReadParameter.mark)) ∧
      (formals.map Formal.name).Nodup then
    return formals
  else none

/-- An argument of a call as it is read off its text, where the value that it passes is the one of a
name. -/
inductive ReadArgument where
  | positional (name : String)
  | spread (name : String)
  | keyword (key name : String)
  | spreadKeywords (name : String)
  deriving DecidableEq, Repr

namespace ReadArgument

def read? (cs : List Char) : Option ReadArgument :=
  match Text.takeStars cs with
  | (.varPositional, cs) => (Text.name? cs).map .spread
  | (.varKeyword, cs) => (Text.name? cs).map .spreadKeywords
  | (_, cs) => do
    let (first, second) ← Text.halves? '=' cs
    let first ← Text.name? first
    match second with
    | none => return .positional first
    | some second => (Text.name? second).map (.keyword first)

/-- Whether an argument may stand somewhere before another: nothing without a keyword follows one,
only keywords follow further keywords, and no keyword stands twice. -/
def mayPrecede : ReadArgument → ReadArgument → Bool
  | .keyword .. , .positional _ | .spreadKeywords _, .positional _ => false
  | .spreadKeywords _, .spread _ => false
  | .keyword key _, .keyword other _ => key != other
  | _, _ => true

/-- What an argument contributes to a call, given the values of names. -/
def evaluate (bindings : Bindings Value) : ReadArgument → Option (Call Value)
  | .positional name =>
    match bindings.lookup name with
    | some (.one v) => some ⟨[v], []⟩
    | _ => none
  | .spread name =>
    match bindings.lookup name with
    | some (.rest vs) => some ⟨vs, []⟩
    | _ => none
  | .keyword key name =>
    match bindings.lookup name with
    | some (.one v) => some ⟨[], [(key, v)]⟩
    | _ => none
  | .spreadKeywords name =>
    match bindings.lookup name with
    | some (.extra entries) => some ⟨[], entries⟩
    | _ => none

def evaluateAll (bindings : Bindings Value) : List ReadArgument → Option (Call Value)
  | [] => some ⟨[], []⟩
  | a :: rest => do
    let first ← a.evaluate bindings
    let others ← evaluateAll bindings rest
    return ⟨first.positional ++ others.positional, first.keywords ++ others.keywords⟩

end ReadArgument

/-- The arguments that the text of a call says there are; `none` if the text is no list of
arguments. -/
def readArguments (text : String) : Option (List ReadArgument) :=
  if text = "" then some []
  else do
    let parts ← Text.parts? text
    let arguments ← parts.mapM ReadArgument.read?
    if arguments.Pairwise fun a b => a.mayPrecede b then return arguments else none

/-! ## Written parameters -/

open Text

/-- Whether the hint of a parameter and the class of its default value show no mark outside of
brackets and quotes that a parameter list is cut at. -/
structure WrittenParameter.IsReadable (w : WrittenParameter) : Prop where
  hint : ∀ hint ∈ w.hint, IsClosed separators hint.text.toList
  owner : ∀ owner method parameter, w.default = some (.declared owner method parameter) →
    IsClosed [] owner.qualifiedName.toList

theorem WrittenParameter.isReadable_of_isWellformed {w : WrittenParameter}
    (h : w.isWellformed = true) : w.IsReadable := by
  rw [isWellformed, Bool.and_eq_true, Bool.and_eq_true] at h
  obtain ⟨⟨-, hHint⟩, hOwner⟩ := h
  constructor
  · intro hint hMem
    rw [Option.mem_def] at hMem
    rw [hMem] at hHint
    exact isClosed_of_isHintExpression hHint
  · intro owner method parameter hDefault
    rw [hDefault] at hOwner
    exact (isClosed_of_isDottedPath hOwner).of_subset (List.nil_subset _)

/-- Whether the text of a default value can be cut out of a parameter list. -/
def DefaultExpr.IsReadable : DefaultExpr → Prop
  | .literal v => v.isLiteral = true
  | .declared owner _ _ => IsClosed [] owner.qualifiedName.toList

theorem DefaultExpr.isOperand_render {d : DefaultExpr} (h : d.IsReadable) :
    IsOperand d.render.text.toList := by
  cases d with
  | literal v =>
    have hRender : (literal v).render = ⟨v.text, []⟩ := rfl
    rw [hRender]
    exact Value.isOperand_of_isLiteral v h
  | declared owner method parameter =>
    have hComma : IsClosed [] ", ".toList := by decide
    have hText (s : String) : IsClosed [] (Text.quote s).toList :=
      (Value.isOperand_text s).closed.of_subset (List.nil_subset _)
    have hRow := (((IsClosed.append h hComma).append (hText method)).append hComma).append
      (hText parameter)
    have hCall : IsClosed separators ('(' :: (_ ++ [')'])) :=
      hRow.bracketed (by decide) (by decide) (by decide)
    have hWord : IsClosed separators "original_default".toList := by decide
    have hRender : (declared owner method parameter).render.text.toList
        = "original_default".toList ++ '(' :: (owner.qualifiedName.toList ++ ", ".toList ++
          (Text.quote method).toList ++ ", ".toList ++ (Text.quote parameter).toList ++ [')']) := by
      have hStart : "original_default(".toList = "original_default".toList ++ ['('] := rfl
      have hEnd : ")".toList = [')'] := rfl
      show ("original_default(" ++ owner.qualifiedName ++ ", " ++ Text.quote method ++ ", "
        ++ Text.quote parameter ++ ")").toList = _
      simp only [String.toList_append, hStart, hEnd, List.append_assoc, List.cons_append,
        List.nil_append]
    rw [hRender]
    exact ⟨hWord.append hCall, nofun⟩

theorem DefaultExpr.isReadable_of {m : Method} {p : Parameter}
    (h : ∀ owner method parameter, of m p = .declared owner method parameter →
      IsClosed [] owner.qualifiedName.toList) : (of m p).IsReadable := by
  rw [of] at h ⊢
  split
  next hLiteral => exact hLiteral
  next hOther => exact h _ _ _ (if_neg hOther)

namespace WrittenParameter

/-- What can be seen of a parameter in its text. -/
def seen (w : WrittenParameter) : ReadParameter :=
  ⟨w.name, w.kind.mark, w.default.map fun d => d.render.text⟩

def stars (kind : ParameterKind) : List Char :=
  match kind with
  | .varPositional => ['*']
  | .varKeyword => ['*', '*']
  | _ => []

/-- What stands between the asterisks of a parameter and its default value. -/
def declared (w : WrittenParameter) : List Char :=
  w.name.toList ++ match w.hint with
    | some hint => ':' :: ' ' :: hint.text.toList
    | none => []

theorem toList_text (w : WrittenParameter) :
    w.text.toList = stars w.kind ++
      match w.default, w.hint with
      | none, _ => w.declared
      | some d, some _ => w.declared ++ [' '] ++ '=' :: ' ' :: d.render.text.toList
      | some d, none => w.declared ++ '=' :: d.render.text.toList := by
  obtain ⟨name, kind, hint, default⟩ := w
  have hColon : ": ".toList = [':', ' '] := rfl
  have hEquals : " = ".toList = [' ', '=', ' '] := rfl
  have hTight : "=".toList = ['='] := rfl
  have hOne : "*".toList = ['*'] := rfl
  have hTwo : "**".toList = ['*', '*'] := rfl
  cases kind <;> cases hint <;> cases default <;>
    simp only [text, stars, declared, String.toList_append, hColon, hEquals, hTight, hOne, hTwo,
      String.toList_empty, List.append_assoc, List.cons_append, List.nil_append, List.append_nil]

theorem takeStars_stars {kind : ParameterKind} {cs : List Char} (h : cs.head? ≠ some '*') :
    takeStars (stars kind ++ cs) = (kind.mark, cs) := by
  cases kind with
  | positionalOnly | positionalOrKeyword | keywordOnly => exact takeStars_of_head? h
  | varPositional => exact takeStars_cons h
  | varKeyword => rfl

variable {w : WrittenParameter}

theorem isClosed_hint (h : w.IsReadable) {hint : Rendered} (hHint : w.hint = some hint) :
    IsClosed separators (' ' :: hint.text.toList) := by
  have hBlank : IsClosed separators [' '] := by decide
  exact hBlank.append (h.hint hint hHint)

theorem isClosed_declared (hName : isName w.name = true) (h : w.IsReadable) {marks : List Char}
    (hSubset : marks ⊆ separators) (hColon : IsClosed marks [':']) : IsClosed marks w.declared := by
  have hClosed := (isClosed_of_isName hName).of_subset hSubset
  rw [declared]
  split
  next hint hHint =>
    exact hClosed.append (hColon.append ((isClosed_hint h hHint).of_subset hSubset))
  next => rwa [List.append_nil]

theorem halves?_declared (hName : isName w.name = true) (h : w.IsReadable) {after : List Char}
    (hAfter : IsClosed [':'] after) (hNone : w.hint = none → after = []) :
    ∃ hint, halves? ':' (w.declared ++ after) = some (w.name.toList, hint) := by
  have hSubset : [':'] ⊆ separators := by decide
  have hClosed := (isClosed_of_isName hName).of_subset hSubset
  rw [declared]
  split
  next hint hHint =>
    have hText := ((isClosed_hint h hHint).of_subset hSubset).append hAfter
    rw [List.append_assoc]
    exact ⟨_, halves?_append hClosed hText⟩
  next hHint =>
    rw [hNone hHint, List.append_nil, List.append_nil]
    exact ⟨_, halves?_of_isClosed hClosed⟩

theorem read?_of_halves {cs all first : List Char} {mark : ParameterKind}
    {default hint : Option (List Char)} {name : String} (hStars : takeStars cs = (mark, all))
    (hDefault : halves? '=' all = some (first, default))
    (hHint : halves? ':' first = some (name.toList, hint)) (hName : isName name = true) :
    ReadParameter.read? cs
      = some ⟨name, mark, default.map fun cs => String.ofList (dropBlanks cs)⟩ := by
  simp [ReadParameter.read?, hStars, hDefault, hHint, name?_toList hName]

theorem head?_declared (hName : isName w.name = true) {c : Char}
    (hOther : isIdentifierStart c = false) (cs : List Char) :
    (w.declared ++ cs).head? ≠ some c := by
  rw [declared, List.append_assoc]
  exact head?_of_isName hName hOther _

/-- The text of a parameter shows its name, its asterisks and its default value. -/
theorem read?_text (hName : isName w.name = true) (h : w.IsReadable)
    (hDefault : ∀ d ∈ w.default, d.IsReadable) :
    ReadParameter.read? w.text.toList = some w.seen := by
  have hStars (cs : List Char) : takeStars (stars w.kind ++ (w.declared ++ cs))
      = (w.kind.mark, w.declared ++ cs) :=
    takeStars_stars (head?_declared hName (by decide) cs)
  have hSubset : ['='] ⊆ separators := by decide
  have hClosed := isClosed_declared hName h hSubset (by decide)
  rw [toList_text, seen]
  cases hCase : w.default with
  | none =>
    obtain ⟨hint, hHint⟩ := halves?_declared hName h (isClosed_nil _) fun _ => rfl
    rw [List.append_nil] at hHint
    have hAll := hStars []
    rw [List.append_nil] at hAll
    exact read?_of_halves hAll (halves?_of_isClosed hClosed) hHint hName
  | some d =>
    have hOperand := DefaultExpr.isOperand_render (hDefault d hCase)
    have hText := hOperand.closed.of_subset hSubset
    cases hHintCase : w.hint with
    | none =>
      obtain ⟨hint, hHint⟩ := halves?_declared hName h (isClosed_nil _) fun _ => rfl
      rw [List.append_nil] at hHint
      have hRead := read?_of_halves (hStars _) (halves?_append hClosed hText) hHint hName
      simpa [dropBlanks_of_head? hOperand.noBlank] using hRead
    | some hint =>
      have hBefore : IsClosed ['='] [' '] := by decide
      have hBehind : IsClosed [':'] [' '] := by decide
      obtain ⟨hint, hHint⟩ := halves?_declared hName h hBehind fun hNone => by
        rw [hHintCase] at hNone
        cases hNone
      have hHalves := halves?_append (hClosed.append hBefore) (hBefore.append hText)
      rw [List.append_assoc] at hHalves
      have hRead := read?_of_halves (hStars _) hHalves hHint hName
      simpa [dropBlanks_cons hOperand.noBlank] using hRead

/-- The text of a parameter shows no comma outside of brackets and quotes. -/
theorem isClosed_text (hName : isName w.name = true) (h : w.IsReadable)
    (hDefault : ∀ d ∈ w.default, d.IsReadable) : IsClosed [','] w.text.toList := by
  have hSubset : [','] ⊆ separators := by decide
  have hDeclared := isClosed_declared hName h hSubset (by decide)
  have hStars : IsClosed [','] (stars w.kind) := by cases w.kind <;> decide
  have hBlank : IsClosed [','] [' '] := by decide
  have hEquals : IsClosed [','] ['='] := by decide
  rw [toList_text]
  refine hStars.append ?_
  split
  next => exact hDeclared
  next d _ hCase _ =>
    have hText := (DefaultExpr.isOperand_render (hDefault d hCase)).closed.of_subset hSubset
    exact (hDeclared.append hBlank).append (hEquals.append (hBlank.append hText))
  next d hCase _ =>
    have hText := (DefaultExpr.isOperand_render (hDefault d hCase)).closed.of_subset hSubset
    exact hDeclared.append (hEquals.append hText)

end WrittenParameter

/-! ## Written declarations -/

namespace DeclItem

/-- What can be seen of an item in its text. -/
def seen : DeclItem WrittenParameter → DeclItem ReadParameter
  | .receiver => .parameter ⟨"self", .positionalOrKeyword, none⟩
  | .slash => .slash
  | .star => .star
  | .parameter w => .parameter w.seen

/-- Whether an item can be told from its text. -/
def IsReadable : DeclItem WrittenParameter → Prop
  | .receiver | .slash | .star => True
  | .parameter w => isName w.name = true ∧ w.IsReadable ∧ ∀ d ∈ w.default, d.IsReadable

/-- The text of a parameter is its asterisks and what starts with its name. -/
theorem text_eq_stars_append {w : WrittenParameter} (hName : isName w.name = true) :
    ∃ c cs, w.text.toList = WrittenParameter.stars w.kind ++ c :: cs ∧
      isIdentifierStart c = true := by
  obtain ⟨c, cs, hChars, hStart⟩ := head_of_isName hName
  rw [WrittenParameter.toList_text, WrittenParameter.declared, hChars]
  cases w.default <;> cases w.hint <;> exact ⟨c, _, rfl, hStart⟩

theorem head?_text {item : DeclItem WrittenParameter} (h : item.IsReadable) :
    item.text.toList.head? ≠ some ' ' := by
  cases item with
  | receiver | slash | star => decide
  | parameter w =>
    obtain ⟨c, cs, hText, hStart⟩ := text_eq_stars_append h.1
    have hOther : c ≠ ' ' := HintText.ne_of_test hStart (by decide)
    rw [text, hText]
    cases w.kind <;> simp [WrittenParameter.stars, hOther]

theorem read?_text {item : DeclItem WrittenParameter} (h : item.IsReadable) :
    read? item.text.toList = some item.seen := by
  cases item with
  | receiver | slash | star => decide
  | parameter w =>
    obtain ⟨hName, hReadable, hDefault⟩ := h
    obtain ⟨c, cs, hText, hStart⟩ := text_eq_stars_append hName
    have hNoSlash : c ≠ '/' := HintText.ne_of_test hStart (by decide)
    have hNoStar : c ≠ '*' := HintText.ne_of_test hStart (by decide)
    have hSlash : w.text.toList ≠ ['/'] := by
      rw [hText]
      cases w.kind <;> simp [WrittenParameter.stars, hNoSlash]
    have hStar : w.text.toList ≠ ['*'] := by
      rw [hText]
      cases w.kind <;> simp [WrittenParameter.stars, hNoStar]
    rw [text, read?, if_neg hSlash, if_neg hStar,
      WrittenParameter.read?_text hName hReadable hDefault]
    rfl

theorem isClosed_text {item : DeclItem WrittenParameter} (h : item.IsReadable) :
    IsClosed [','] item.text.toList := by
  cases item with
  | receiver | slash | star => decide
  | parameter w =>
    obtain ⟨hName, hReadable, hDefault⟩ := h
    exact WrittenParameter.isClosed_text hName hReadable hDefault

end DeclItem

/-- The items of a declaration are read off its text. -/
theorem read?_declarationText {items : List (DeclItem WrittenParameter)} (hSome : items ≠ [])
    (h : ∀ item ∈ items, item.IsReadable) :
    ((parts? (declarationText items).text).bind fun parts => parts.mapM DeclItem.read?)
      = some (items.map DeclItem.seen) := by
  have hTexts : items.map DeclItem.text ≠ [] := by simpa using hSome
  have hParts := parts?_intercalate hTexts
    (List.forall_mem_map.2 fun item hMem => DeclItem.isClosed_text (h item hMem))
    (List.forall_mem_map.2 fun item hMem => DeclItem.head?_text (h item hMem))
  have hText : (declarationText items).text = ", ".intercalate (items.map DeclItem.text) := rfl
  rw [hText, hParts, Option.bind_some, List.map_map]
  exact mapM_map_eq_some fun item hMem => DeclItem.read?_text (h item hMem)

theorem readKind_mark {α β : Type} (kind : ParameterKind) (after : Bool) {rest : List (DeclItem α)}
    {rest' : List (DeclItem β)} (h : rest.any DeclItem.isSlash = rest'.any DeclItem.isSlash) :
    readKind kind.mark after rest = readKind kind after rest' := by
  cases kind <;> simp [readKind, ParameterKind.mark, ParameterKind.isVariadic, h]

/-- What is seen of a declaration is read as the declaration itself. -/
theorem readDeclaration_seen (value : String → Value) {after : Bool}
    (items : List (DeclItem WrittenParameter)) :
    readDeclaration ReadParameter.name ReadParameter.mark (fun p => p.default.map value) after
        (items.map DeclItem.seen)
      = readDeclaration WrittenParameter.name WrittenParameter.kind
        (fun w => w.default.map fun d => value d.render.text) after items := by
  have hSlash (items : List (DeclItem WrittenParameter)) :
      (items.map DeclItem.seen).any DeclItem.isSlash = items.any DeclItem.isSlash := by
    rw [List.any_map]
    exact List.any_congr rfl fun item => by cases item <;> rfl
  have hPlain : (ParameterKind.positionalOrKeyword == .varPositional) = false := rfl
  induction items generalizing after with
  | nil => rfl
  | cons item items ih =>
    cases item with
    | receiver =>
      simp only [List.map_cons, DeclItem.seen, readDeclaration, readKind, hSlash, hPlain,
        Bool.or_false, Option.map_none, ih]
    | slash | star => simp only [List.map_cons, DeclItem.seen, readDeclaration, ih]
    | parameter w =>
      simp only [List.map_cons, DeclItem.seen, WrittenParameter.seen, readDeclaration,
        readKind_mark _ _ (hSlash items), ParameterKind.mark_beq_varPositional, Option.map_map,
        Function.comp_def, ih]

namespace ListZone

/-- Where a reader is that has passed what `Passed` says and comes to some parameters. -/
def Fits (after : Bool) (ps : List Parameter) : ListZone → Prop
  | .plain => after = false
  | .slashed => after = false ∧ ∀ p ∈ ps, p.kind ≠ .positionalOnly
  | .keywords => after = true
  | .closed => ps = []
  | .start | .star => False

open DeclItem (Passed marked)

variable {zone : ListZone} {hasVariadic isMarked after : Bool} {p : Parameter} {ps : List Parameter}

theorem exists_next_of_fits (hPassed : Passed hasVariadic isMarked after (p :: ps))
    (hHead : ∀ q ∈ ps, p.kind.precedes q.kind) (hZone : zone.Fits after (p :: ps)) :
    let star := p.kind = .keywordOnly && !hasVariadic && !isMarked
    let slash := p.kind = .positionalOnly && !ps.any (·.kind = .positionalOnly)
    let items : List (DeclItem Parameter) :=
      (if star then [.star] else []) ++ [.parameter p] ++ (if slash then [.slash] else [])
    ∃ next : ListZone, next.Fits (after || star || p.kind == .varPositional) ps ∧
      (items.map (marked Parameter.kind)).foldlM next? zone = some next := by
  intro star slash items
  have hRank : ∀ q ∈ ps, p.kind.rank ≤ q.kind.rank :=
    fun q hq => ParameterKind.rank_le_of_precedes (hHead q hq)
  have hLater (kind : ParameterKind) (hLess : kind.rank < p.kind.rank) :
      ∀ q ∈ ps, q.kind ≠ kind := by
    rintro q hq rfl
    exact absurd (hRank q hq) (Nat.not_le.2 hLess)
  cases after with
  | true =>
    -- Beyond a star or a variadic parameter, no parameter takes its argument by position.
    obtain ⟨hSeen, hBeyond⟩ := hPassed.beyond rfl
    have hKinds := hBeyond p List.mem_cons_self
    have hZone : zone = .keywords := by cases zone <;> simp [Fits] at hZone ⊢
    subst hZone
    cases hKind : p.kind <;> simp [hKind, ParameterKind.rank] at hKinds
    case keywordOnly =>
      have hNoStar : star = false := by
        rcases Bool.or_eq_true_iff.1 hSeen with h | h <;> simp [star, h]
      refine ⟨.keywords, rfl, ?_⟩
      simp [items, slash, hNoStar, hKind, marked, ParameterKind.mark, ParameterKind.isVariadic]
      rfl
    case varKeyword =>
      refine ⟨.closed, Parameter.eq_nil_of_varKeyword hKind hHead, ?_⟩
      simp [items, star, slash, hKind, marked, ParameterKind.mark, ParameterKind.isVariadic]
      rfl
  | false =>
    obtain ⟨hNoMark, hVariadic⟩ := hPassed.before rfl
    have hZone : zone = .plain ∨ zone = .slashed ∧ ∀ q ∈ p :: ps, q.kind ≠ .positionalOnly := by
      cases zone <;> simp [Fits] at hZone ⊢
      exact hZone
    cases hKind : p.kind with
    | positionalOnly =>
      have hPlain : zone = .plain :=
        hZone.resolve_right fun h => h.2 p List.mem_cons_self hKind
      subst hPlain
      have hNoStar : star = false := by simp [star, hKind]
      cases hSlash : slash with
      | true =>
        have hLast : ∀ q ∈ ps, q.kind ≠ .positionalOnly := by
          simpa [slash, hKind] using hSlash
        refine ⟨.slashed, ⟨by rw [hNoStar]; rfl, hLast⟩, ?_⟩
        simp [items, hNoStar, hSlash, hKind, marked, ParameterKind.mark, ParameterKind.isVariadic]
        rfl
      | false =>
        refine ⟨.plain, by rw [hNoStar]; rfl, ?_⟩
        simp [items, hNoStar, hSlash, hKind, marked, ParameterKind.mark, ParameterKind.isVariadic]
        rfl
    | positionalOrKeyword =>
      have hNone := hLater .positionalOnly (by rw [hKind]; decide)
      refine ⟨zone, ?_, ?_⟩
      · rcases hZone with rfl | ⟨rfl, -⟩ <;> simp [Fits, star, hKind]
        exact hNone
      · rcases hZone with rfl | ⟨rfl, -⟩ <;>
          simp [items, star, slash, hKind, marked, ParameterKind.mark, ParameterKind.isVariadic,
            next?]
    | varPositional =>
      refine ⟨.keywords, Bool.or_true _, ?_⟩
      rcases hZone with rfl | ⟨rfl, -⟩ <;>
        simp [items, star, slash, hKind, marked, ParameterKind.mark, ParameterKind.isVariadic,
          next?, isPositional]
    | keywordOnly =>
      have hNone := hLater .varPositional (by rw [hKind]; decide)
      have hNoVariadic : hasVariadic = false := by
        rw [hVariadic]
        simpa [hKind] using hNone
      have hStar : star = true := by simp [star, hKind, hNoMark, hNoVariadic]
      refine ⟨.keywords, by simp [Fits, hStar], ?_⟩
      rcases hZone with rfl | ⟨rfl, -⟩ <;>
        simp [items, hStar, slash, hKind, marked, ParameterKind.mark, ParameterKind.isVariadic,
          next?, isPositional]
    | varKeyword =>
      refine ⟨.closed, Parameter.eq_nil_of_varKeyword hKind hHead, ?_⟩
      rcases hZone with rfl | ⟨rfl, -⟩ <;>
        simp [items, star, slash, hKind, marked, ParameterKind.mark, ParameterKind.isVariadic,
          next?]

/-- The grammar of parameter lists takes the items of an ordered list. -/
theorem accepts_ofParameters (hOrder : ps.Pairwise fun p q => p.kind.precedes q.kind)
    (hPassed : Passed hasVariadic isMarked after ps) (hZone : zone.Fits after ps) :
    zone.accepts ((DeclItem.ofParameters hasVariadic isMarked ps).map (marked Parameter.kind))
      = true := by
  induction ps generalizing zone isMarked after with
  | nil => cases zone <;> first | rfl | cases hZone
  | cons p ps ih =>
    obtain ⟨hHead, hTail⟩ := List.pairwise_cons.mp hOrder
    obtain ⟨next, hNext, hRun⟩ := exists_next_of_fits hPassed hHead hZone
    rw [DeclItem.ofParameters, List.map_append, accepts_append hRun]
    exact ih hTail (hPassed.tail hHead) hNext

end ListZone

namespace DeclItem

/-- What is written and what is seen of it have the marks of the parameters at hand. -/
theorem marked_seen (item : DeclItem WrittenParameter) :
    item.seen.marked ReadParameter.mark = item.marked WrittenParameter.kind := by
  cases item with
  | receiver | slash | star => rfl
  | parameter w => exact congrArg parameter w.kind.mark_mark

variable {world : World} {m : Method}

theorem marked_of_write {items : List (DeclItem Parameter)}
    {written : List (DeclItem WrittenParameter)}
    (h : List.Forall₂ (fun item w => write world m item = .ok w) items written) :
    written.map (marked WrittenParameter.kind) = items.map (marked Parameter.kind) := by
  induction h with
  | nil => rfl
  | @cons item w _ _ hItem _ ih =>
    rw [List.map_cons, List.map_cons, ih]
    cases item with
    | receiver | slash | star =>
      cases hItem
      rfl
    | parameter p =>
      obtain ⟨w, hOf, rfl⟩ := write_parameter hItem
      rw [marked, marked, (WrittenParameter.of_eq_ok hOf).2.1]

/-- A written item can be told from its text if its names and its hint can. -/
theorem isReadable_of_write {items : List (DeclItem WrittenParameter)}
    (hWritten : writtenDeclaration world m = .ok items)
    (hNames : ∀ p ∈ m.parameters, isName p.name = true)
    (hReadable : ∀ w, .parameter w ∈ items → w.IsReadable) : ∀ item ∈ items, item.IsReadable := by
  intro item hMem
  cases item with
  | receiver | slash | star => trivial
  | parameter w =>
    obtain ⟨original, hOriginal, hWrite⟩ := Sequence.exists_of_mem_of_mapM_eq_ok hWritten hMem
    cases original with
    | receiver | slash | star => cases hWrite
    | parameter p =>
      obtain ⟨_, hOf, hEq⟩ := write_parameter hWrite
      cases hEq
      obtain ⟨hName, -, hDefault⟩ := WrittenParameter.of_eq_ok hOf
      have hParameter : p ∈ m.parameters :=
        mem_of_parameter_mem_ofParameters ((List.mem_cons.1 hOriginal).resolve_left nofun)
      refine ⟨hName ▸ hNames p hParameter, hReadable w hMem, fun d hd => ?_⟩
      rw [hDefault, Option.mem_def, Option.map_eq_some_iff] at hd
      obtain ⟨v, hv, rfl⟩ := hd
      refine DefaultExpr.isReadable_of fun owner method parameter hOwner => ?_
      have hDeclared : w.default = some (.declared owner method parameter) := by
        rw [hDefault, hv, Option.map_some, hOwner]
      exact (hReadable w hMem).owner owner method parameter hDeclared

end DeclItem

/-- The text that is written for a method is read as the declaration of its parameters, where each
default value is what the text of its expression yields. -/
theorem readParameters_of_written {world : World} {m : Method}
    {items : List (DeclItem WrittenParameter)} {value : String → Value}
    (hWritten : writtenDeclaration world m = .ok items) (hLegal : Parameter.IsLegal m.parameters)
    (hNames : ∀ p ∈ m.parameters, isName p.name = true)
    (hReadable : ∀ w, .parameter w ∈ items → w.IsReadable)
    (hValue : ∀ p ∈ m.parameters, ∀ v, p.default = some v →
      value (DefaultExpr.of m p).render.text = v) :
    readParameters value (declarationText items).text = some (declaredFormals m.parameters) := by
  have hEach := Sequence.mapM_eq_ok_iff.mp hWritten
  have hSome : items ≠ [] := by
    rintro rfl
    cases hEach
  have hItems := read?_declarationText hSome
    (DeclItem.isReadable_of_write hWritten hNames hReadable)
  have hFormals : readDeclaration ReadParameter.name ReadParameter.mark
      (fun p => p.default.map value) false (items.map DeclItem.seen)
        = declaredFormals m.parameters := by
    have hWrittenFormals : writtenFormals (fun d => value d.render.text) items
        = declaredFormals m.parameters := writtenFormals_eq hWritten hValue
    exact (readDeclaration_seen value items).trans hWrittenFormals
  have hAccepts : ListZone.start.accepts
      ((items.map DeclItem.seen).map (DeclItem.marked ReadParameter.mark)) = true := by
    have hMarks : (items.map DeclItem.seen).map (DeclItem.marked ReadParameter.mark)
        = (declarationOf m.parameters).map (DeclItem.marked Parameter.kind) := by
      rw [List.map_map, ← DeclItem.marked_of_write hEach]
      exact List.map_congr_left fun item _ => DeclItem.marked_seen item
    have hPassed : DeclItem.Passed (m.parameters.any fun p => p.kind = .varPositional) false false
        m.parameters := ⟨nofun, fun _ => ⟨rfl, rfl⟩⟩
    have hPlain : ListZone.plain.Fits false m.parameters := rfl
    rw [hMarks]
    exact ListZone.accepts_ofParameters hLegal.ordered hPassed hPlain
  have hDistinct : ((declaredFormals m.parameters).map Formal.name).Nodup := by
    have hNames : (m.parameters.map Parameter.formal).map Formal.name
        = m.parameters.map Parameter.name := by
      rw [List.map_map]
      rfl
    rw [declaredFormals_eq hLegal, List.map_cons, hNames]
    exact List.nodup_cons.2 ⟨hLegal.noReceiver, hLegal.distinct⟩
  obtain ⟨parts, hParts, hRead⟩ := Option.bind_eq_some_iff.1 hItems
  simp only [readParameters, hParts, hRead, hFormals, Option.bind_eq_bind, Option.bind_some,
    if_pos (And.intro hAccepts hDistinct)]
  rfl

/-! ## Written arguments -/

namespace CallArgument

def seen : CallArgument → ReadArgument
  | .positional name => .positional name
  | .spread name => .spread name
  | .keyword name => .keyword name name
  | .spreadKeywords name => .spreadKeywords name

def name : CallArgument → String
  | .positional name | .spread name | .keyword name | .spreadKeywords name => name

theorem name_of (p : Parameter) : (of p).name = p.name := by
  rw [of]
  cases p.kind <;> rfl

theorem toList_text (a : CallArgument) :
    a.text.toList = match a with
      | .positional name => name.toList
      | .spread name => '*' :: name.toList
      | .keyword name => name.toList ++ '=' :: name.toList
      | .spreadKeywords name => '*' :: '*' :: name.toList := by
  have hOne : "*".toList = ['*'] := rfl
  have hTwo : "**".toList = ['*', '*'] := rfl
  have hEquals : "=".toList = ['='] := rfl
  cases a <;>
    simp only [text, String.toList_append, hOne, hTwo, hEquals, List.append_assoc, List.cons_append,
      List.nil_append]

variable {a : CallArgument}

theorem head?_text (h : isName a.name = true) : a.text.toList.head? ≠ some ' ' := by
  have hAlone := head?_of_isName (c := ' ') h (by decide) []
  rw [List.append_nil] at hAlone
  rw [toList_text]
  cases a with
  | positional name => exact hAlone
  | keyword name => exact head?_of_isName h (by decide) _
  | spread | spreadKeywords => simp

theorem isClosed_text (h : isName a.name = true) : IsClosed [','] a.text.toList := by
  have hName : IsClosed [','] a.name.toList := (isClosed_of_isName h).of_subset (by decide)
  have hStar : IsClosed [','] ['*'] := by decide
  have hEquals : IsClosed [','] ['='] := by decide
  rw [toList_text]
  cases a with
  | positional name => exact hName
  | spread name => exact hStar.append hName
  | keyword name => exact hName.append (hEquals.append hName)
  | spreadKeywords name => exact hStar.append (hStar.append hName)

theorem read?_text (h : isName a.name = true) : ReadArgument.read? a.text.toList = some a.seen := by
  have hName : IsClosed ['='] a.name.toList := (isClosed_of_isName h).of_subset (by decide)
  have hStar (cs : List Char) := head?_of_isName (c := '*') h (by decide) cs
  have hAlone := hStar []
  rw [List.append_nil] at hAlone
  have hRead : name? a.name.toList = some a.name := name?_toList h
  rw [toList_text]
  cases a with
  | positional name =>
    have hStars : takeStars name.toList = _ := takeStars_of_head? hAlone
    have hHalves : halves? '=' name.toList = _ := halves?_of_isClosed hName
    have hRead : name? name.toList = some name := hRead
    simp [ReadArgument.read?, hStars, hHalves, hRead, seen]
  | spread name =>
    have hStars : takeStars ('*' :: name.toList) = _ := takeStars_cons hAlone
    have hRead : name? name.toList = some name := hRead
    simp [ReadArgument.read?, hStars, hRead, seen]
  | keyword name =>
    have hStars : takeStars (name.toList ++ '=' :: name.toList) = _ := takeStars_of_head? (hStar _)
    have hHalves : halves? '=' (name.toList ++ '=' :: name.toList) = _ := halves?_append hName hName
    have hRead : name? name.toList = some name := hRead
    simp [ReadArgument.read?, hStars, hHalves, hRead, seen]
  | spreadKeywords name =>
    have hRead : name? name.toList = some name := hRead
    simp [ReadArgument.read?, takeStars, hRead, seen]

theorem evaluate_seen (bindings : Bindings Value) (a : CallArgument) :
    a.seen.evaluate bindings = a.evaluate bindings := by
  cases a <;> rfl

theorem evaluateAll_seen (bindings : Bindings Value) (arguments : List CallArgument) :
    ReadArgument.evaluateAll bindings (arguments.map seen) = evaluateAll bindings arguments := by
  induction arguments with
  | nil => rfl
  | cons a arguments ih =>
    rw [List.map_cons, ReadArgument.evaluateAll, evaluateAll, evaluate_seen, ih]

theorem mayPrecede_seen {p q : Parameter} (hOrder : p.kind.precedes q.kind)
    (hName : p.name ≠ q.name) : ((of p).seen.mayPrecede (of q).seen) = true := by
  cases hFirst : p.kind <;> cases hSecond : q.kind <;>
    simp [of, seen, ReadArgument.mayPrecede, hFirst, hSecond, hName] <;>
    simp [hFirst, hSecond, ParameterKind.precedes, ParameterKind.rank,
      ParameterKind.isVariadic] at hOrder

end CallArgument

/-- The text of the delegated call is read as its arguments. -/
theorem readArguments_callArguments {ps : List Parameter} (hLegal : Parameter.IsLegal ps)
    (hNames : ∀ p ∈ ps, isName p.name = true) :
    readArguments (", ".intercalate ((callArguments ps).map CallArgument.text))
      = some ((callArguments ps).map CallArgument.seen) := by
  have hEach : ∀ a ∈ callArguments ps, isName a.name = true := by
    refine List.forall_mem_map.2 fun p hp => ?_
    rw [CallArgument.name_of]
    exact hNames p hp
  by_cases hSome : ps = []
  · subst hSome
    rfl
  have hTexts : (callArguments ps).map CallArgument.text ≠ [] := by
    simpa [callArguments] using hSome
  have hParts := parts?_intercalate hTexts
    (List.forall_mem_map.2 fun a hMem => CallArgument.isClosed_text (hEach a hMem))
    (List.forall_mem_map.2 fun a hMem => CallArgument.head?_text (hEach a hMem))
  have hRead : (((callArguments ps).map CallArgument.text).map String.toList).mapM
      ReadArgument.read? = some ((callArguments ps).map CallArgument.seen) := by
    rw [List.map_map]
    exact mapM_map_eq_some fun a hMem => CallArgument.read?_text (hEach a hMem)
  have hOrdered : ((callArguments ps).map CallArgument.seen).Pairwise
      fun a b => a.mayPrecede b := by
    rw [callArguments, List.map_map, List.pairwise_map]
    exact (hLegal.ordered.and (List.pairwise_map.1 hLegal.distinct)).imp fun h =>
      CallArgument.mayPrecede_seen h.1 h.2
  have hText : ", ".intercalate ((callArguments ps).map CallArgument.text) ≠ "" := by
    intro hEmpty
    rw [hEmpty] at hParts
    rw [← Option.some.inj hParts] at hRead
    cases hRead
  rw [readArguments, if_neg hText]
  simp only [hParts, hRead, Option.bind_eq_bind, Option.bind_some, if_pos hOrdered]
  rfl

end Interpose

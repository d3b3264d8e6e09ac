import Interpose.Text.Similarity

/-! # Arguments of a command

An argument that starts with a dash, and is not a dash alone, holds options. A long option has a
name of its own and can carry its value after an equals sign. Short options have one letter each and
can be joined; one that takes a value takes the rest of the argument, and otherwise the next
argument. Two dashes alone end the options. A command either takes options among its other arguments
or stops at the first other one. If an option is given several times, the last value counts.
-/
namespace Interpose.CommandLine

set_option autoImplicit false

/-- An option: its name, the letter of its short form, and what its help says. -/
structure OptionSpec where
  name : String
  letter : Option Char := none
  takesValue : Bool := true
  isRequired : Bool := false
  help : String
  deriving DecidableEq, Repr

/-- A command. The path is its name after that of the program. -/
structure CommandSpec where
  path : String
  usage : String
  summary : String
  options : List OptionSpec
  /-- Whether options may follow other arguments. -/
  mixesOptions : Bool := true
  deriving DecidableEq, Repr

def helpOption : OptionSpec :=
  { name := "help", takesValue := false, help := "Show this message and exit." }

/-- An option that is given, with its value if it takes one. -/
structure Setting where
  option : OptionSpec
  value : String := ""
  deriving DecidableEq, Repr

/-- What is wrong with the arguments of a command. -/
inductive UsageError where
  /-- An option that takes a value is the last argument. -/
  | missingValue (option : String)
  /-- A value is given to an option that takes none. -/
  | unexpectedValue (option : String)
  | unknownOption (option : String) (similar : List String)
  | unknownCommand (name : String) (similar : List String)
  | missingCommand
  | missingOption (option : OptionSpec)
  | extraArguments (arguments : List String)
  deriving DecidableEq, Repr

def OptionSpec.long (o : OptionSpec) : String :=
  "--" ++ o.name

def shortForm (letter : Char) : String :=
  String.ofList ['-', letter]

namespace CommandSpec

variable (spec : CommandSpec)

def allOptions : List OptionSpec :=
  spec.options ++ [helpOption]

def longOption? (form : String) : Option OptionSpec :=
  spec.allOptions.find? fun o => o.long == form

def shortOption? (letter : Char) : Option OptionSpec :=
  spec.allOptions.find? fun o => o.letter == some letter

/-- Reads a long option; its value may stand in the next of the arguments that follow. -/
def takeLong (form : String) (attached : Option String) (rest : List String) :
    Except UsageError (List Setting × List String) :=
  match spec.longOption? form with
  | none => .error (.unknownOption form (Text.similarTo form (spec.allOptions.map (·.long))))
  | some o =>
    if o.takesValue then
      match attached, rest with
      | some value, rest => .ok ([⟨o, value⟩], rest)
      | none, value :: rest => .ok ([⟨o, value⟩], rest)
      | none, [] => .error (.missingValue form)
    else if attached.isSome then .error (.unexpectedValue form)
    else .ok ([⟨o, ""⟩], rest)

def takeShorts (rest : List String) : List Char → Except UsageError (List Setting × List String)
  | [] => .ok ([], rest)
  | letter :: letters =>
    match spec.shortOption? letter with
    | none => .error (.unknownOption (shortForm letter) [])
    | some o =>
      if o.takesValue then
        match letters, rest with
        | [], [] => .error (.missingValue (shortForm letter))
        | [], value :: rest => .ok ([⟨o, value⟩], rest)
        | letters, rest => .ok ([⟨o, String.ofList letters⟩], rest)
      else (takeShorts rest letters).map fun (settings, rest) => (⟨o, ""⟩ :: settings, rest)

/-- Splits an argument at its first equals sign. -/
def splitValue (cs : List Char) : String × Option String :=
  (String.ofList (cs.takeWhile (· != '=')),
    match cs.dropWhile (· != '=') with
    | [] => none
    | _ :: value => some (String.ofList value))

def takeOptions (argument : List Char) (rest : List String) :
    Except UsageError (List Setting × List String) :=
  match argument with
  | '-' :: '-' :: _ =>
    let (form, attached) := splitValue argument
    spec.takeLong form attached rest
  | cs => spec.takeShorts rest cs.tail

theorem length_takeLong {form : String} {attached : Option String} {rest after : List String}
    {settings : List Setting} (h : spec.takeLong form attached rest = .ok (settings, after)) :
    after.length ≤ rest.length := by
  unfold takeLong at h
  split at h
  · contradiction
  · split at h
    · split at h <;> cases h <;> simp
    · split at h <;> cases h
      exact Nat.le_refl _

theorem length_takeShorts {rest after : List String} {letters : List Char}
    {settings : List Setting} (h : spec.takeShorts rest letters = .ok (settings, after)) :
    after.length ≤ rest.length := by
  fun_induction takeShorts spec rest letters generalizing settings with
  | case1 => cases h; exact Nat.le_refl _
  | case2 => contradiction
  | case3 => contradiction
  | case4 => cases h; simp_all
  | case5 => cases h; exact Nat.le_refl _
  | case6 letter letters o _ _ ih =>
    cases hTail : spec.takeShorts rest letters with
    | error e => simp [hTail, Except.map] at h
    | ok tail =>
      simp [hTail, Except.map] at h
      obtain ⟨-, rfl⟩ := h
      exact ih hTail

theorem length_takeOptions {argument : List Char} {rest after : List String}
    {settings : List Setting} (h : spec.takeOptions argument rest = .ok (settings, after)) :
    after.length ≤ rest.length := by
  unfold takeOptions at h
  split at h
  · exact spec.length_takeLong h
  · exact spec.length_takeShorts h

def holdsOptions (argument : List Char) : Bool :=
  argument.head? == some '-' && argument != ['-']

/-- Divides arguments into the options that are given, in order, and the other arguments. -/
def divide (arguments : List String) : Except UsageError (List Setting × List String) :=
  match arguments with
  | [] => .ok ([], [])
  | argument :: rest =>
    if argument = "--" then .ok ([], rest)
    else if holdsOptions argument.toList then
      match _taken : spec.takeOptions argument.toList rest with
      | .error e => .error e
      | .ok (settings, after) =>
        (divide after).map fun (more, others) => (settings ++ more, others)
    else if spec.mixesOptions then
      (divide rest).map fun (settings, others) => (settings, argument :: others)
    else .ok ([], argument :: rest)
termination_by arguments.length
decreasing_by
  · exact Nat.lt_succ_of_le (spec.length_takeOptions _taken)
  · simp

end CommandSpec

/-- The value of the last setting of an option. -/
def valueOf? (name : String) (settings : List Setting) : Option String :=
  (settings.reverse.find? fun s => s.option.name == name).map (·.value)

def isGiven (name : String) (settings : List Setting) : Bool :=
  (valueOf? name settings).isSome

end Interpose.CommandLine

import BlazorBridge.Options
import BlazorBridge.Text.Digit

/-!
# Arguments

The command line takes five options. A long name may be cut short as long as it stays unambiguous, a
value may stand in the same argument behind an equals sign, and one-letter options may be joined, the
last of them with its value. Two hyphens as a value in the same argument give the option no value. An
argument of two hyphens ends the options. An argument that begins with a hyphen is an option, unless it
is a negative number or holds a space and names no option.
-/

namespace BlazorBridge.CommandLine

/-- The options of the command line. -/
inductive Flag where
  | help
  | input
  | watch
  | space
  | verbose
  deriving DecidableEq, Repr

namespace Flag

/-- All options, in the order in which they are listed. -/
def all : List Flag := [.help, .input, .watch, .space, .verbose]

/-- The letter of an option. -/
def letter : Flag → Char
  | .help => 'h'
  | .input => 'i'
  | .watch => 'w'
  | .space => 'n'
  | .verbose => 'v'

/-- The long name of an option, without its hyphens. -/
def long : Flag → Text
  | .help => "help".toList
  | .input => "input".toList
  | .watch => "watch".toList
  | .space => "namespace".toList
  | .verbose => "verbose".toList

/-- Whether an option takes a value. -/
def takesValue : Flag → Bool
  | .input | .space => true
  | _ => false

/-- The short spelling of an option. -/
def shortText (f : Flag) : Text := ['-', f.letter]

/-- The long spelling of an option. -/
def longText (f : Flag) : Text := "--".toList ++ f.long

/-- Both spellings of an option. -/
def name (f : Flag) : Text := f.shortText ++ "/".toList ++ f.longText

/-- The option with a letter. -/
def ofLetter? (c : Char) : Option Flag := all.find? fun f => f.letter == c

/-- The option with a spelling, and whether it is the short one. -/
def ofSpelling? (t : Text) : Option (Flag × Bool) :=
  (all.find? fun f => f.shortText == t || f.longText == t).map fun f => (f, f.shortText == t)

end Flag

/-- Why the arguments cannot be used. -/
inductive UsageFault where
  | ambiguous (argument : Text) (candidates : List Flag)
  | missingValue (flag : Flag)
  | unwantedValue (flag : Flag) (value : Text)
  | missingInput
  | unrecognized (arguments : List Text)
  deriving DecidableEq, Repr

/-- The wording of a usage fault. -/
def UsageFault.message : UsageFault → Text
  | .ambiguous argument candidates =>
    "ambiguous option: ".toList ++ argument ++ " could match ".toList ++
      Text.join ", ".toList (candidates.map Flag.longText)
  | .missingValue flag => "argument ".toList ++ flag.name ++ ": expected one argument".toList
  | .unwantedValue flag value =>
    "argument ".toList ++ flag.name ++ ": ignored explicit argument ".toList ++ Text.quoted value
  | .missingInput => "the following arguments are required: ".toList ++ Flag.input.name
  | .unrecognized arguments => "unrecognized arguments: ".toList ++ Text.join [' '] arguments

/-! ## Kinds of arguments -/

/-- What an argument is by itself. An option may carry text of its own. -/
inductive Argument where
  | plain
  | endMark
  | unknown
  | option (flag : Flag) (short : Bool) (value : Option Text)
  deriving DecidableEq, Repr

/-- Whether a text is a hyphen and a decimal number, with a fraction or without. -/
def isNegativeNumber (t : Text) : Bool :=
  match t with
  | '-' :: rest =>
    let number := if rest.getLast? == some '\n' then rest.dropLast else rest
    match number.dropWhile isDigit with
    | [] => !number.isEmpty
    | '.' :: fraction => !fraction.isEmpty && fraction.all isDigit
    | _ => false
  | _ => false

/-- What an argument is that names no option. -/
def unnamed (t : Text) : Argument :=
  if isNegativeNumber t || t.contains ' ' then .plain else .unknown

/-- What an argument is that begins with two hyphens. -/
def readLong (t : Text) : Except UsageFault Argument :=
  let (name, value) :=
    match Text.cut '=' t with
    | some (name, value) => (name, some value)
    | none => (t, none)
  match Flag.all.filter fun f => Text.startsWith name f.longText with
  | [] => .ok (unnamed t)
  | [flag] => .ok (.option flag false value)
  | candidates => .error (.ambiguous t candidates)

/-- What an argument is. -/
def readArgument (t : Text) : Except UsageFault Argument :=
  match Flag.ofSpelling? t, (Text.cut '=' t).bind fun (name, value) =>
      (Flag.ofSpelling? name).map fun (flag, short) => Argument.option flag short (some value), t with
  | some (flag, short), _, _ => .ok (.option flag short none)
  | none, some option, _ => .ok option
  | none, none, ['-', '-'] => .ok .endMark
  | none, none, '-' :: '-' :: _ => readLong t
  | none, none, '-' :: c :: rest =>
    match Flag.ofLetter? c with
    | some flag => .ok (.option flag true (some rest))
    | none => .ok (unnamed t)
  | none, none, _ => .ok .plain

/-- What each argument is. Behind the end mark every argument is plain. -/
def readAll : List Text → Except UsageFault (List (Text × Argument))
  | [] => .ok []
  | t :: rest =>
    match readArgument t with
    | .error fault => .error fault
    | .ok .endMark => .ok ((t, .endMark) :: rest.map fun t => (t, .plain))
    | .ok argument =>
      match readAll rest with
      | .error fault => .error fault
      | .ok others => .ok ((t, argument) :: others)

/-! ## Settings -/

/-- What the arguments ask for. An option can be given without a value, so the pattern is absent twice
over: if the option is missing, and if its value is. -/
structure Settings where
  input : Option (Option Text) := none
  watch : Bool := false
  space : Option Text
  verbose : Bool := false
  deriving DecidableEq, Repr

/-- The options that one argument sets: joined letters, then perhaps one with a value. The value is
absent if it has to come from the next argument. -/
structure Group where
  letters : List Flag
  last : Option (Flag × Option Text)
  deriving DecidableEq, Repr

/-- Resolves the options in the text behind a letter, each a letter too, until one takes the rest as
its value. -/
def readLetters (flag : Flag) : Text → Except UsageFault Group
  | [] => .ok (if flag.takesValue then ⟨[], some (flag, none)⟩ else ⟨[flag], none⟩)
  | c :: rest =>
    if flag.takesValue then .ok ⟨[], some (flag, some (c :: rest))⟩
    else
      match Flag.ofLetter? c with
      | none => .error (.unwantedValue flag (c :: rest))
      | some next =>
        match readLetters next rest with
        | .error fault => .error fault
        | .ok group => .ok { group with letters := flag :: group.letters }

/-- Resolves the options that one argument sets. -/
def readGroup (flag : Flag) (short : Bool) : Option Text → Except UsageFault Group
  | none => readLetters flag []
  | some value =>
    if flag.takesValue then .ok ⟨[], some (flag, some value)⟩
    else if short && !value.isEmpty then readLetters flag value
    else .error (.unwantedValue flag value)

/-- Settings with one more option without a value. -/
def Settings.mark (s : Settings) : Flag → Settings
  | .watch => { s with watch := true }
  | .verbose => { s with verbose := true }
  | _ => s

/-- Settings with one more option that takes a value. -/
def Settings.give (s : Settings) (value : Option Text) : Flag → Settings
  | .input => { s with input := some value }
  | .space => { s with space := value }
  | _ => s

/-- The value that stands in the argument of its option. Two hyphens stand for no value. -/
def ownValue (t : Text) : Option Text := if t = ['-', '-'] then none else some t

/-- What a command line comes to: a request for help, or settings and the arguments that are left. -/
inductive Request where
  | help
  | settings (s : Settings) (left : List Text)
  deriving DecidableEq, Repr

/-- Goes through the arguments in order. Help is given as soon as it is asked for. -/
def gather (s : Settings) (left : List Text) : List (Text × Argument) → Except UsageFault Request
  | [] => .ok (.settings s left)
  | (t, .plain) :: rest => gather s (left ++ [t]) rest
  | (t, .endMark) :: rest => gather s (left ++ [t]) rest
  | (t, .unknown) :: rest => gather s (left ++ [t]) rest
  | (_, .option flag short value) :: rest =>
    match readGroup flag short value with
    | .error fault => .error fault
    | .ok group =>
      let marked := group.letters.foldl Settings.mark s
      let wantsHelp := group.letters.contains .help
      match group.last, rest with
      | none, rest => if wantsHelp then .ok .help else gather marked left rest
      | some (flag, some value), rest =>
        if wantsHelp then .ok .help else gather (marked.give (ownValue value) flag) left rest
      | some (flag, none), (value, .plain) :: rest =>
        if wantsHelp then .ok .help else gather (marked.give (some value) flag) left rest
      | some (flag, none), _ => .error (.missingValue flag)

/-- Reads the arguments; `space` is the namespace used when none is given. -/
def readRequest (space : Text) (arguments : List Text) : Except UsageFault Request :=
  match readAll arguments with
  | .error fault => .error fault
  | .ok read =>
    match gather { space := some space } [] read with
    | .error fault => .error fault
    | .ok .help => .ok .help
    | .ok (.settings s left) =>
      if s.input.isNone then .error .missingInput
      else if left.isEmpty then .ok (.settings s [])
      else .error (.unrecognized left)

end BlazorBridge.CommandLine

import BlazorBridge.CommandLine.Help
import BlazorBridge.Watching

/-!
# The command line

A run of the whole program: the arguments are read, the options checked, and the files generated or
watched. The exit status is 2 if the arguments cannot be used, 1 if the namespace is not valid or a file
failed in the first pass, and 0 otherwise.
-/

namespace BlazorBridge.CommandLine

/-- How the program was started; this decides the name under which it reports. -/
inductive Entry where
  | program
  | script
  deriving DecidableEq, Repr

/-- The name under which a part of the program reports. -/
def reporterName (entry : Entry) : Reporter → Text
  | .extraction => "jsinterop.validators".toList
  | .files => "jsinterop.files".toList
  | .commandLine =>
    match entry with
    | .program => "jsinterop.cli".toList
    | .script => "__main__".toList

/-- An event as a line of the log. -/
def logLine (entry : Entry) (e : Event) : Text :=
  e.level.label ++ " ".toList ++ reporterName entry e.reporter ++ ": ".toList ++ e.message ++ ['\n']

/-- Whether an event is shown. -/
def isShown (verbose : Bool) (e : Event) : Bool := verbose || e.level != .debug

/-- The log of a run. -/
def logText (entry : Entry) (verbose : Bool) (events : List Event) : Text :=
  (events.filter (isShown verbose)).flatMap (logLine entry)

/-- What a run of the program comes to: its exit status, what it prints on either channel, the
directories it watched, and the tree it leaves. -/
structure Result where
  status : Nat
  output : Text
  errors : Text
  watched : List Text
  tree : FileTree

/-- Why a run breaks off without an exit status. -/
inductive Failure where
  | files (fault : Fault)
  | help (fault : Template.Fault)
  | noPattern
  deriving DecidableEq, Repr

/-- The wording of a failure. -/
def Failure.message : Failure → Text
  | .files fault => fault.message
  | .help fault => fault.message
  | .noPattern => "expected str, bytes or os.PathLike object, not list".toList

/-- Generates or watches, as the settings say. -/
def work (s : Settings) (options : Options) (pattern : Text) (arriving : List Batch) (t : FileTree) :
    Run Watching.Summary :=
  if s.watch then Watching.watch options none pattern arriving t
  else
    (Generation.generateAll options none pattern t).andThen fun t failures => .done t [] ⟨failures, []⟩

/-- The exit status for a number of failures. -/
def statusOf (failures : Nat) : Nat := if failures = 0 then 0 else 1

/-- Runs the program with settings. The namespace is looked at before the pattern. -/
def runSettings (entry : Entry) (s : Settings) (arriving : List Batch) (t : FileTree) :
    Except Failure Result :=
  match s.space.bind Options.ofNamespace?, s.input.join with
  | none, _ => .ok ⟨1, [], logText entry s.verbose [.badNamespace s.space], [], t⟩
  | some _, none => .error .noPattern
  | some options, some pattern =>
    let run := work s options pattern arriving t
    match run.outcome with
    | .error fault => .error (.files fault)
    | .ok summary =>
      .ok ⟨statusOf summary.failures, [], logText entry s.verbose run.events, summary.watched, run.tree⟩

/-- Runs the program. `setting` is the value of the environment variable for the namespace. -/
def run (entry : Entry) (setting : Option Text) (arguments : List Text) (arriving : List Batch)
    (t : FileTree) : Except Failure Result :=
  let space := defaultNamespace setting
  match readRequest space arguments with
  | .error fault => .ok ⟨2, [], fault.report, [], t⟩
  | .ok .help =>
    match helpText space with
    | .error fault => .error (.help fault)
    | .ok text => .ok ⟨0, text, [], [], t⟩
  | .ok (.settings s _) => runSettings entry s arriving t

end BlazorBridge.CommandLine

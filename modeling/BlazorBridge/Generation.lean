import BlazorBridge.Event
import BlazorBridge.Pattern
import BlazorBridge.Wrapper

/-!
# Generation

Reading sources, writing wrappers beside them, and doing so for many files. A run gives the tree it
leaves, what it reported, and its outcome; changes and reports made before a fault stay.
-/

namespace BlazorBridge

/-- What a run leaves behind. -/
structure Run (α : Type) where
  tree : FileTree
  events : List Event
  outcome : Except Fault α

namespace Run

/-- A run that does nothing but report and give a value. -/
def done {α : Type} (tree : FileTree) (events : List Event) (value : α) : Run α :=
  ⟨tree, events, .ok value⟩

/-- A run that ends in a fault. -/
def stop {α : Type} (tree : FileTree) (events : List Event) (fault : Fault) : Run α :=
  ⟨tree, events, .error fault⟩

/-- A run with events in front of its own. -/
def after {α : Type} (events : List Event) (r : Run α) : Run α :=
  { r with events := events ++ r.events }

/-- One run followed by another, which starts from the tree that the first leaves. A fault in the
first is the outcome of both. -/
def andThen {α β : Type} (r : Run α) (next : FileTree → α → Run β) : Run β :=
  match r.outcome with
  | .ok value => (next r.tree value).after r.events
  | .error fault => stop r.tree r.events fault

end Run

namespace Generation

/-! ## One file -/

/-- The text of a source. -/
def readSource (t : FileTree) (source : Path) : Except Fault Text :=
  if source.hasNull then .error .nullInPath
  else
    match t.read source with
    | .error cause => .error (.unreadable source (.store cause))
    | .ok bytes =>
      match Utf8.decode bytes with
      | .error fault => .error (.unreadable source (.encoding fault))
      | .ok text => .ok (Utf8.unifyLineEnds text)

/-- Where the wrapper of a source goes. -/
def outputPath (options : Options) (source : Path) : Except Fault Path :=
  (source.withSuffix options.outputSuffix).mapError .suffix

/-- Writes a wrapper. -/
def writeOutput (t : FileTree) (output : Path) (code : Text) : Except Fault FileTree :=
  if output.hasNull then .error .nullInPath
  else (t.write output (Utf8.encode code)).mapError (.unwritable output)

/-- The reports on the functions of a source. -/
def reports (source : Text) (outcomes : List (Candidate × Except Rejection JsFunction)) :
    List Event :=
  Extraction.events source outcomes ++ [.found (Extraction.moduleOf source outcomes)] ++
    match Extraction.rejected outcomes with
    | [] => []
    | rejected => [.skipped rejected.length]

/-- Generates the wrapper of one source. -/
def generateFile (options : Options) (t : FileTree) (source : Path) : Run Path :=
  match readSource t source with
  | .error fault => .stop t [.processing source] fault
  | .ok text =>
    let outcomes := Extraction.outcomes text
    let events := .processing source :: reports source.toText outcomes
    match outputPath options source with
    | .error fault => .stop t events fault
    | .ok output =>
      let code := Wrapper.render options (Extraction.moduleOf source.toText outcomes)
      match writeOutput t output code with
      | .error fault => .stop t events fault
      | .ok written => .done written (events ++ [.generated output]) output

/-! ## Many files -/

/-- Generates the wrappers of sources in order, and gives the number of failures. A failure of one
file does not stop the others; any other fault does. -/
def generateFiles (options : Options) (t : FileTree) : List Path → Run Nat
  | [] => .done t [] 0
  | source :: rest =>
    let first := generateFile options t source
    match first.outcome with
    | .ok _ => (generateFiles options first.tree rest).after first.events
    | .error fault =>
      if fault.ofOneFile then
        let others := generateFiles options first.tree rest
        { others with
          events := first.events ++ [.failed source fault] ++ others.events
          outcome := others.outcome.map (· + 1) }
      else .stop first.tree first.events fault

/-- The last report of a generation. -/
def verdict (failures : Nat) : Event :=
  if failures = 0 then .completed else .finishedWith failures

/-- Generates the wrappers of all files that match a pattern, and gives the number of failures. That
nothing matches is no failure. -/
def generateAll (options : Options) (directory : Option Path) (pattern : Text) (t : FileTree) :
    Run Nat :=
  match Pattern.find t directory pattern with
  | .error fault => .stop t [] fault
  | .ok [] => .done t [.noMatch pattern] 0
  | .ok (first :: more) =>
    let sources := (first :: more).map Location.toPath
    ((generateFiles options t sources).after [.starting sources.length]).andThen
      fun t failures => .done t [verdict failures] failures

end Generation

end BlazorBridge

import BlazorBridge.Extraction
import BlazorBridge.Fault
import BlazorBridge.Options

/-!
# Events

What a run reports while it goes on. An event knows its level, the part of the program that it comes
from, and its wording.
-/

namespace BlazorBridge

/-- How serious an event is. -/
inductive Level where
  | debug
  | info
  | warning
  | error
  deriving DecidableEq, Repr

/-- The word for a level. -/
def Level.label : Level → Text
  | .debug => "DEBUG".toList
  | .info => "INFO".toList
  | .warning => "WARNING".toList
  | .error => "ERROR".toList

/-- The part of the program that an event comes from. -/
inductive Reporter where
  | extraction
  | files
  | commandLine
  deriving DecidableEq, Repr

/-- What happens in a run. -/
inductive Event where
  | rejected (source : Text) (rejection : Rejection)
  | accepted (shape : Shape) (f : JsFunction)
  | processing (source : Path)
  | found (m : JsModule)
  | skipped (count : Nat)
  | generated (output : Path)
  | failed (source : Path) (fault : Fault)
  | noMatch (pattern : Text)
  | starting (count : Nat)
  | completed
  | finishedWith (failures : Nat)
  | changed (source : Path)
  | ignored (source : Path)
  | watching (count : Nat)
  | howToStop
  | stopped
  | badNamespace (space : Option Text)
  deriving DecidableEq, Repr

namespace Event

/-- How serious an event is. -/
def level : Event → Level
  | .accepted .. | .ignored _ => .debug
  | .skipped _ | .noMatch _ => .warning
  | .rejected .. | .failed .. | .finishedWith _ | .badNamespace _ => .error
  | _ => .info

/-- Where an event comes from. -/
def reporter : Event → Reporter
  | .rejected .. | .accepted .. => .extraction
  | .badNamespace _ => .commandLine
  | _ => .files

/-- The wording of an event. -/
def message : Event → Text
  | .rejected source r =>
    "Function '".toList ++ r.name ++ "' in ".toList ++ source ++ " rejected: ".toList ++
      r.cause.message
  | .accepted shape f =>
    "Accepted ".toList ++ shape.label ++ " '".toList ++ f.name ++ "' (".toList ++
      Text.ofNat f.parameters.length ++ " params) -> ".toList ++ f.result
  | .processing source => "Processing: ".toList ++ source.toText
  | .found m =>
    "  Found ".toList ++ Text.ofNat m.functions.length ++ " functions in '".toList ++ m.name ++
      "'".toList
  | .skipped count =>
    "  Skipped ".toList ++ Text.ofNat count ++ " undocumented or invalid functions".toList
  | .generated output => "  Generated: ".toList ++ output.toText
  | .failed source fault =>
    "  Error processing ".toList ++ source.toText ++ ": ".toList ++ fault.message
  | .noMatch pattern => "No files found matching pattern: ".toList ++ pattern
  | .starting count =>
    "Found ".toList ++ Text.ofNat count ++ " JavaScript files to process".toList
  | .completed => "Generation completed successfully!".toList
  | .finishedWith failures =>
    "Generation finished with ".toList ++ Text.ofNat failures ++ " failed files".toList
  | .changed source => "File changed: ".toList ++ source.toText
  | .ignored source => "Ignoring change outside pattern: ".toList ++ source.toText
  | .watching count =>
    "Watching ".toList ++ Text.ofNat count ++ " JavaScript files for changes...".toList
  | .howToStop => "Press Ctrl+C to stop watching.".toList
  | .stopped => "Stopped watching files.".toList
  | .badNamespace space => "Error: ".toList ++ Options.badNamespace space

end Event

/-! ## Reports of extraction -/

namespace Extraction

/-- The event for the outcome of a candidate. -/
def event (source : Text) : Candidate × Except Rejection JsFunction → Event
  | (c, .ok f) => .accepted c.shape f
  | (_, .error r) => .rejected source r

/-- The events of an extraction: one for each candidate, in order. -/
def events (source : Text) (outcomes : List (Candidate × Except Rejection JsFunction)) :
    List Event :=
  outcomes.map (event source)

end Extraction

end BlazorBridge

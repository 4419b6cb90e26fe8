import BlazorBridge.Documentation.Tags
import BlazorBridge.WrapperType

/-!
# Parameters

A parameter of a function: its name, its C# type, and whether a call may leave it out. Only a
parameter that may be left out can have a default value, and the type of `Presence` says so.
-/

namespace BlazorBridge

/-- Whether a call must give a parameter, or may leave it out, perhaps with a default value. -/
inductive Presence where
  | required
  | optional (default : Option Text)
  deriving DecidableEq, Repr

/-- One parameter of a function. -/
structure Parameter where
  name : Text
  type : Text := WrapperType.object
  presence : Presence := .required
  deriving DecidableEq, Repr

namespace Parameter

/-- Whether a call may leave the parameter out. -/
def isOptional (p : Parameter) : Bool :=
  match p.presence with
  | .required => false
  | .optional _ => true

/-- The default value, as it was written. -/
def default? (p : Parameter) : Option Text :=
  match p.presence with
  | .required => none
  | .optional value => value

/-- A parameter from its fields; none if a parameter that must be given has a default value. -/
def ofFields? (name type : Text) (isOptional : Bool) (default : Option Text) :
    Option Parameter :=
  if isOptional then some ⟨name, type, .optional default⟩
  else if default.isNone then some ⟨name, type, .required⟩
  else none

/-- What is said of a parameter that must be given and has a default value. -/
def strayDefault (name : Text) : Text :=
  "Parameter '".toList ++ name ++ "' has a default value but is not optional".toList

/-! ## Reading parameters -/

/-- Whether a character can stand in the name of a parameter that a question mark follows. -/
def isNameChar (c : Char) : Bool := isWord c || c == '$'

/-- A segment without the question mark behind its name, when there is one. -/
def dropMark? (t : Text) : Option Text :=
  match t.takeWhile isNameChar with
  | [] => none
  | c :: name =>
    match Text.trimFront (t.dropWhile isNameChar) with
    | '?' :: rest => some (c :: name ++ rest)
    | _ => none

/-- The name and type of a parameter without mark and default value. An annotation behind a colon
gives the type, else the documentation does, else it is an object. -/
def nameAndType (tags : TypeTags) (t : Text) : Text × Text :=
  match Text.cut ':' t with
  | some (name, written) => (Text.trim name, WrapperType.ofAnnotation written)
  | none =>
    let name := Text.trim t
    match tags.parameter? name with
    | some (c :: written) => (name, WrapperType.ofAnnotation (c :: written))
    | _ => (name, WrapperType.object)

/-- Reads one segment of a parameter list: a name, then perhaps a question mark, an annotation
behind a colon and a default value behind an equals sign. -/
def ofSegment (tags : TypeTags) (segment : Text) : Parameter :=
  let trimmed := Text.trim segment
  let marked := dropMark? trimmed
  match Text.cut '=' (marked.getD trimmed) with
  | some (front, value) =>
    let (name, type) := nameAndType tags front
    ⟨name, type, .optional (some (Text.trim value))⟩
  | none =>
    let (name, type) := nameAndType tags (marked.getD trimmed)
    ⟨name, type, if marked.isSome then .optional none else .required⟩

/-- Reads a parameter list: one parameter for each segment between commas that is not blank. -/
def ofList (tags : TypeTags) (list : Text) : List Parameter :=
  ((Text.split (· == ',') list).filter (!Text.isBlank ·)).map (ofSegment tags)

end Parameter

end BlazorBridge

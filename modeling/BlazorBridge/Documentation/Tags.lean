import BlazorBridge.Text.Blank
import BlazorBridge.Text.Place
import BlazorBridge.Text.Word

/-!
# Type tags

A documentation block states types in tags. A parameter tag is `@param`, a type in braces and a
name; a result tag is `@return` or `@returns` and a type in braces. White space stands between the
parts, and a type is any text that is not empty and holds no closing brace. Of several tags for one
parameter the last counts, of several result tags the first.
-/

namespace BlazorBridge

/-- The types that the tags of a documentation block state. Parameters stand in the order of their
tags, and one name can stand more than once. -/
structure TypeTags where
  parameters : List (Text × Text) := []
  result : Option Text := none
  deriving DecidableEq, Repr

namespace TypeTags

/-- The type stated for a parameter: that of its last tag. -/
def parameter? (tags : TypeTags) (name : Text) : Option Text :=
  tags.parameters.reverse.lookup name

/-- Whether some type is stated. An empty result type states none. -/
def stated (tags : TypeTags) : Bool :=
  !tags.parameters.isEmpty || (tags.result.getD [] != [])

/-! ## Reading tags -/

/-- What follows the white space at the front of a text, when there is some. -/
def gap? : Text → Option Text
  | [] => none
  | c :: rest => if isBlank c then some (Text.trimFront rest) else none

/-- The word at the front of a text and what follows it. -/
def word? (t : Text) : Option (Text × Text) :=
  if Text.startsWithWord t then some (t.takeWhile isWord, t.dropWhile isWord) else none

/-- The type in braces at the front of a text, trimmed, and what follows it. -/
def braced? : Text → Option (Text × Text)
  | [] => none
  | c :: rest =>
    if c = '{' then
      match Text.cut '}' rest with
      | some (body, after) => if body.isEmpty then none else some (Text.trim body, after)
      | none => none
    else none

/-- The parameter tag at the front of a text, as a name with its type, and what follows it. -/
def parameterTag? (t : Text) : Option ((Text × Text) × Text) := do
  let t ← gap? (← Text.after? "@param".toList t)
  let (type, t) ← braced? t
  let (name, t) ← word? (← gap? t)
  return ((name, type), t)

/-- The type in the result tag at the front of a text, and what follows it. -/
def resultTag? (t : Text) : Option (Text × Text) := do
  let t ← Text.after? "@return".toList t
  braced? (← gap? ((Text.after? ['s'] t).getD t))

/-- What `read` makes of the text at a place, with the number of characters it takes. -/
def atPlace {α : Type} (read : Text → Option (α × Text)) (p : Place) : Option (α × Nat) :=
  (read p.after).map fun (found, rest) => (found, p.after.length - rest.length)

/-- The types that the tags in a text state. -/
def ofText (content : Text) : TypeTags where
  parameters := Place.scan (atPlace parameterTag?) content
  result := (Place.scan (atPlace resultTag?) content).head?

end TypeTags

end BlazorBridge

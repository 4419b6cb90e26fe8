import BlazorBridge.Declaration.Shape

/-!
# Candidate declarations

Every place of a text where one of the two shapes begins is a candidate. Each shape is looked for
on its own, from left to right and without overlaps; the two lists are merged by offset, and a
candidate that begins before the end of the last one kept is dropped.
-/

namespace BlazorBridge

/-- The shape of a declaration. Candidates from elsewhere may carry a label of their own. -/
inductive Shape where
  | function
  | arrow
  | other (label : Text)
  deriving DecidableEq, Repr

/-- The word for a shape. -/
def Shape.label : Shape → Text
  | .function => "function".toList
  | .arrow => "arrow".toList
  | .other label => label

/-- A declaration found in a text, before its documentation is looked at. It spans the characters
from `start` up to `stop`. -/
structure Candidate where
  name : Text
  parameters : Text
  result : Text
  start : Int
  stop : Int
  isAsync : Bool := false
  shape : Shape := .function
  deriving DecidableEq, Repr

namespace Candidate

/-! ## Finding candidates -/

/-- Whether `word` occurs in a text as a whole word. `free` says that no word character stands in
front of the text. -/
def hasWord (word : Text) (free : Bool) : Text → Bool
  | [] => false
  | c :: rest =>
    (free &&
      match Text.after? word (c :: rest) with
      | some after => !Text.startsWithWord after
      | none => false) ||
    hasWord word (!isWord c) rest

/-- How many characters before a declaration are searched for a stray keyword. -/
def asyncWindow : Nat := 50

/-- Whether the keyword for asynchronous functions stands in the window before a place. -/
def asyncBefore (p : Place) : Bool :=
  hasWord "async".toList true (p.before.take asyncWindow).reverse

/-- The declaration of a shape that begins at a place, if any, with the number of its characters. -/
def atPlace (shape : Shape) (read : Text → Option (Signature × Text)) (p : Place) :
    Option (Candidate × Nat) :=
  if Text.startsWithWord p.before then none
  else
    (read p.after).map fun (s, rest) =>
      let length := p.after.length - rest.length
      ({ name := s.name, parameters := s.parameters, result := s.result, start := p.offset,
         stop := p.offset + length, isAsync := s.isAsync || asyncBefore p, shape }, length)

/-- The function declarations of a text, from left to right. -/
def functions (t : Text) : List Candidate :=
  Place.scan (atPlace .function Signature.function?) t

/-- The arrow declarations of a text, from left to right. -/
def arrows (t : Text) : List Candidate :=
  Place.scan (atPlace .arrow Signature.arrow?) t

/-! ## Overlaps -/

/-- Keeps a candidate when it begins at or after `limit`, which is then moved to its end. -/
def keepFrom (limit : Int) : List Candidate → List Candidate
  | [] => []
  | c :: rest => if c.start < limit then keepFrom limit rest else c :: keepFrom c.stop rest

/-- The candidates that do not begin before the end of the last one kept. -/
def dropOverlaps (candidates : List Candidate) : List Candidate := keepFrom (-1) candidates

/-- The candidates of a text, in the order of their offsets and without overlaps. -/
def ofText (t : Text) : List Candidate :=
  dropOverlaps ((functions t).merge (arrows t) fun a b => decide (a.start ≤ b.start))

end Candidate

end BlazorBridge

import BlazorBridge.Text.Basic

/-!
# Wildcards

A wildcard is matched against a whole name. A star stands for any characters, a question mark for
one, and a set in brackets for one of its members, or for one that is not a member if an exclamation
mark comes first. A closing bracket that comes first is a member; a bracket that is never closed
stands for itself. A hyphen between two characters makes a range, and a range whose ends are in the
wrong order is left out together with its ends. Case counts.
-/

namespace BlazorBridge

/-- One element of a wildcard. -/
inductive Glyph where
  | star
  | any
  | exactly (c : Char)
  | oneOf (negated : Bool) (ranges : List (Char × Char))
  deriving DecidableEq, Repr

namespace Glyph

/-! ## Sets -/

/-- The text of a set and what follows its closing bracket, when it is closed. The text given
begins behind the opening bracket. -/
def setBody? (t : Text) : Option (Text × Text) :=
  let bang := (Text.after? ['!'] t).isSome
  let t := (Text.after? ['!'] t).getD t
  let bracket := (Text.after? [']'] t).isSome
  let t := (Text.after? [']'] t).getD t
  (Text.cut ']' t).map fun (body, rest) =>
    ((if bang then ['!'] else []) ++ (if bracket then [']'] else []) ++ body, rest)

/-- Cuts the text of a set at the hyphens that make ranges. A piece has at least `least` characters
when a hyphen ends it; `piece` is the current one so far, its latest character first. -/
def piecesFrom (least : Nat) (piece : Text) : Text → List Text
  | [] => [piece.reverse]
  | c :: rest =>
    if c = '-' ∧ least ≤ piece.length then piece.reverse :: piecesFrom 2 [] rest
    else piecesFrom least (c :: piece) rest

/-- A hyphen with nothing behind it makes no range and belongs to the piece before it. -/
def mendLast : List Text → List Text
  | [] => []
  | [piece] => [piece]
  | [piece, []] => [piece ++ ['-']]
  | piece :: pieces => piece :: mendLast pieces

/-- Leaves out the ranges whose ends are in the wrong order, from the right. -/
def dropEmptyRanges : List Text → List Text
  | [] => []
  | piece :: pieces =>
    match dropEmptyRanges pieces with
    | [] => [piece]
    | next :: more =>
      match piece.getLast?, next.head? with
      | some low, some high =>
        if high < low then (piece.dropLast ++ next.tail) :: more else piece :: next :: more
      | _, _ => piece :: next :: more

/-- The ranges of a set, a single character being a range of its own. `none` stands for a hyphen
that makes a range; at the front it is a character. -/
def rangesOf : List (Option Char) → List (Char × Char)
  | [] => []
  | some low :: none :: some high :: rest => (low, high) :: rangesOf rest
  | some c :: rest => (c, c) :: rangesOf rest
  | none :: rest => ('-', '-') :: rangesOf rest

/-- The set with the given text. -/
def ofSet (body : Text) : Glyph :=
  let pieces := piecesFrom (if Text.startsWith ['!'] body then 2 else 1) [] body
  let marked := (dropEmptyRanges (mendLast pieces)).map fun piece => piece.map some
  match List.intercalate [none] marked with
  | some '!' :: rest => .oneOf true (rangesOf rest)
  | all => .oneOf false (rangesOf all)

/-- Whether an element other than a star stands for a character. -/
def accepts (c : Char) : Glyph → Bool
  | .star => false
  | .any => true
  | .exactly d => c = d
  | .oneOf negated ranges => negated != ranges.any fun (low, high) => low ≤ c && c ≤ high

end Glyph

/-! ## Matching -/

/-- A wildcard. -/
abbrev Wildcard := List Glyph

namespace Wildcard

/-- Reads a wildcard, once `skip` more characters are passed. -/
def readFrom : Nat → Text → Wildcard
  | _, [] => []
  | skip + 1, _ :: rest => readFrom skip rest
  | 0, c :: rest =>
    if c = '*' then .star :: readFrom 0 rest
    else if c = '?' then .any :: readFrom 0 rest
    else if c = '[' then
      match Glyph.setBody? rest with
      | some (body, _) => Glyph.ofSet body :: readFrom (body.length + 1) rest
      | none => .exactly '[' :: readFrom 0 rest
    else .exactly c :: readFrom 0 rest

/-- Reads a wildcard. -/
def ofText (t : Text) : Wildcard := readFrom 0 t

/-- For every place of a list, whether the list holds from there on at some place. -/
def anyFrom : List Bool → List Bool
  | [] => []
  | b :: rest =>
    let later := anyFrom rest
    (b || later.head?.getD false) :: later

/-- For every tail of a name, from the name itself down to the empty text, whether a wildcard matches
it. The tails are settled together, so a star costs no more than any other element. -/
def fitsTails : Wildcard → Text → List Bool
  | [], name => name.map (fun _ => false) ++ [true]
  | .star :: glyphs, name => anyFrom (fitsTails glyphs name)
  | glyph :: glyphs, name =>
    List.zipWith (fun c later => glyph.accepts c && later) name (fitsTails glyphs name).tail ++ [false]

/-- Whether a name matches a wildcard. -/
def fits (glyphs : Wildcard) (name : Text) : Bool := (fitsTails glyphs name).head?.getD false

end Wildcard

end BlazorBridge

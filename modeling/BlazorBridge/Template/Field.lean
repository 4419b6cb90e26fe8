import BlazorBridge.Template.Fault
import BlazorBridge.Template.Value

/-!
# Fields of a template

How a value is written in place of a directive. A field has a least width and is filled on the left, or
on the right if it is flushed left; a number may be filled with zeros behind its sign. The precision is
the most characters of a text, the fewest digits of a whole number, and the places of a real one.
-/

namespace BlazorBridge.Template

/-- The greatest width that can be written. -/
def greatestWidth : Nat := 0x7fffffffffffffff

/-- The greatest precision that can be written. -/
def greatestPrecision : Nat := 0x7fffffff

/-- How a value is laid out. -/
structure Layout where
  flushLeft : Bool := false
  plus : Bool := false
  blank : Bool := false
  alternate : Bool := false
  zeros : Bool := false
  width : Nat := 0
  precision : Option Nat := none
  deriving DecidableEq, Repr

namespace Layout

/-- Fills a text up to the width. -/
def fill (l : Layout) (t : Text) : Text :=
  let space := List.replicate (l.width - t.length) ' '
  if l.flushLeft then t ++ space else space ++ t

/-- A text, cut to the precision. -/
def cutText (l : Layout) (t : Text) : Text :=
  match l.precision with
  | some most => t.take most
  | none => t

/-- The sign of a number that is not negative. -/
def sign (l : Layout) : Text := if l.plus then ['+'] else if l.blank then [' '] else []

/-- A number as a field: a mark behind the sign, and then the digits with what belongs to them. -/
def fillNumber (l : Layout) (mark digits : Text) : Text :=
  let front := l.sign ++ mark
  if l.zeros && !l.flushLeft then
    front ++ List.replicate (l.width - (front ++ digits).length) '0' ++ digits
  else l.fill (front ++ digits)

/-- Zeros behind a point. The point stands without them only in the alternate form. -/
def places (l : Layout) (count : Nat) : Text :=
  if count = 0 then (if l.alternate then ['.'] else []) else '.' :: List.replicate count '0'

end Layout

/-! ## Conversions -/

/-- The ways to write a value. Those with several letters keep the letter that was used. -/
inductive Conversion where
  | plain
  | shown
  | ascii
  | decimal (letter : Char)
  | octal
  | hexadecimal (letter : Char)
  | exponent (letter : Char)
  | fixed
  | short
  | single
  deriving DecidableEq, Repr

namespace Conversion

/-- The conversion with a letter. -/
def ofLetter? : Char → Option Conversion
  | 's' => some .plain
  | 'r' => some .shown
  | 'a' => some .ascii
  | 'd' => some (.decimal 'd')
  | 'i' => some (.decimal 'i')
  | 'u' => some (.decimal 'u')
  | 'o' => some .octal
  | 'x' => some (.hexadecimal 'x')
  | 'X' => some (.hexadecimal 'X')
  | 'e' => some (.exponent 'e')
  | 'E' => some (.exponent 'E')
  | 'f' | 'F' => some .fixed
  | 'g' | 'G' => some .short
  | 'c' => some .single
  | _ => none

/-- A truth value as a digit. -/
def digit (b : Bool) : Char := if b then '1' else '0'

/-- The most digits that a whole number can have. -/
def mostDigits : Nat := 0x7ffffffc

/-- A truth value as a whole number, with the letter of its base if it has one. -/
def whole (l : Layout) (base : Option Char) (b : Bool) : Except Fault Text :=
  let mark :=
    match base with
    | some letter => if l.alternate then ['0', letter] else []
    | none => []
  let count := l.precision.getD 1
  if mostDigits < count then .error .tooManyDigits
  else .ok (l.fillNumber mark (List.replicate (count - 1) '0' ++ [digit b]))

/-- A truth value as a real number with places and what stands behind them. -/
def real (l : Layout) (places : Text) (b : Bool) : Text := l.fillNumber [] (digit b :: places)

/-- The places of a real number if nothing else is asked for. -/
def standardPlaces : Nat := 6

/-- The places of a number with an exponent. They are counted together with the digit in front of the
point, and the greatest precision, with which that count cannot be made, gives none. -/
def exponentPlaces (l : Layout) : Nat :=
  let count := l.precision.getD standardPlaces
  if count = greatestPrecision then 0 else count

/-- Writes a value. -/
def write (l : Layout) (v : Value) : Conversion → Except Fault Text
  | .plain => .ok (l.fill (l.cutText v.plain))
  | .shown => .ok (l.fill (l.cutText v.shown))
  | .ascii => .ok (l.fill (l.cutText (Text.ascii v.shown)))
  | .decimal letter =>
    match v with
    | .truth b => whole l none b
    | _ => .error (.notNumber letter v.kind)
  | .octal =>
    match v with
    | .truth b => whole l (some 'o') b
    | _ => .error (.notWhole 'o' v.kind)
  | .hexadecimal letter =>
    match v with
    | .truth b => whole l (some letter) b
    | _ => .error (.notWhole letter v.kind)
  | .exponent letter =>
    match v with
    | .truth b =>
      .ok (real l (l.places (exponentPlaces l) ++ letter :: "+00".toList) b)
    | _ => .error (.notReal v.kind)
  | .fixed =>
    match v with
    | .truth b => .ok (real l (l.places (l.precision.getD standardPlaces)) b)
    | _ => .error (.notReal v.kind)
  | .short =>
    match v with
    | .truth b =>
      let places := l.places (l.precision.getD standardPlaces - 1)
      .ok (real l (if l.alternate then places else []) b)
    | _ => .error (.notReal v.kind)
  | .single =>
    match v with
    | .truth b => .ok (l.fill [Char.ofNat b.toNat])
    | .text [c] => .ok (l.fill [c])
    | _ => .error .notSingle

end Conversion

end BlazorBridge.Template

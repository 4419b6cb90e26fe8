import BlazorBridge.Text.Basic
import BlazorBridge.Text.Printable

/-!
# Quoted text

How a text is shown in a message. The quote is an apostrophe, or a double quote when the text
holds an apostrophe and no double quote. The quote itself and the backslash are escaped, line
feed, carriage return and tab have short escapes, and every other character that cannot be shown
is written by its code point in two, four or eight hexadecimal digits.
-/

namespace BlazorBridge.Text

/-- The lowest `width` hexadecimal digits of a number. -/
def hexDigits (width n : Nat) : Text :=
  let digits := Nat.toDigits 16 n
  List.replicate (width - digits.length) '0' ++ digits

/-- A character by its code point. -/
def codePoint (c : Char) : Text :=
  if c.toNat < 0x100 then ['\\', 'x'] ++ hexDigits 2 c.toNat
  else if c.toNat < 0x10000 then ['\\', 'u'] ++ hexDigits 4 c.toNat
  else ['\\', 'U'] ++ hexDigits 8 c.toNat

/-- One character inside quotes. -/
def escapeChar (quote c : Char) : Text :=
  if c = quote || c = '\\' then ['\\', c]
  else if c = '\n' then ['\\', 'n']
  else if c = '\r' then ['\\', 'r']
  else if c = '\t' then ['\\', 't']
  else if isPrintable c then [c]
  else codePoint c

/-- A text between quotes. -/
def quoted (t : Text) : Text :=
  let quote := if t.contains '\'' && !t.contains '"' then '"' else '\''
  [quote] ++ t.flatMap (escapeChar quote) ++ [quote]

/-- A text in which every character beyond ASCII is written by its code point. -/
def ascii (t : Text) : Text := t.flatMap fun c => if c.toNat < 0x80 then [c] else codePoint c

end BlazorBridge.Text

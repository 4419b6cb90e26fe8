import BlazorBridge.Text.Blank
import BlazorBridge.Text.Digit

/-!
# Default values

A default value is given as a JavaScript literal and written as a C# one. Truth values, null and
numbers stay as they are, a quoted text is put between double quotes, and whatever else is given
becomes null.
-/

namespace BlazorBridge.Default

/-- A text with every escaped double quote left bare. -/
def bareQuotes : Text → Text
  | [] => []
  | '\\' :: '"' :: rest => '"' :: bareQuotes rest
  | c :: rest => c :: bareQuotes rest

/-- A text with every double quote escaped. -/
def escapeQuotes (t : Text) : Text := t.flatMap fun c => if c = '"' then ['\\', '"'] else [c]

/-- What stands between two equal quotes, when a text begins and ends with them. -/
def unquote? : Text → Option Text
  | [] => none
  | quote :: rest =>
    if (quote = '\'' || quote = '"') && rest.getLast? == some quote then some rest.dropLast
    else none

/-- A text without the sign at its front, if there is one. -/
def dropSign : Text → Text
  | [] => []
  | c :: rest => if c = '+' || c = '-' then rest else c :: rest

/-- What follows the digits at the front of a text, when there are some. -/
def digits? : Text → Option Text
  | [] => none
  | c :: rest => if isDigit c then some (rest.dropWhile isDigit) else none

/-- What follows the mantissa at the front of a text: digits with an optional point and further
digits, or a point and digits. -/
def mantissa? (t : Text) : Option Text :=
  match digits? t with
  | some ('.' :: rest) => some (rest.dropWhile isDigit)
  | some rest => some rest
  | none =>
    match t with
    | '.' :: rest => digits? rest
    | _ => none

/-- Whether a text is an exponent: the letter e, an optional sign and digits. -/
def isExponent : Text → Bool
  | [] => false
  | c :: rest => (c = 'e' || c = 'E') && digits? (dropSign rest) == some []

/-- Whether a text is a decimal number: an optional sign, a mantissa and an optional exponent. -/
def isNumber (t : Text) : Bool :=
  match mantissa? (dropSign t) with
  | some rest => rest.isEmpty || isExponent rest
  | none => false

/-- The C# literal for a default value. -/
def render (written : Text) : Text :=
  let value := Text.trim written
  if value = "true".toList || value = "false".toList || value = "null".toList then value
  else if value = "undefined".toList then "null".toList
  else
    match unquote? value with
    | some inner => ['"'] ++ escapeQuotes (bareQuotes inner) ++ ['"']
    | none => if isNumber value then value else "null".toList

end BlazorBridge.Default

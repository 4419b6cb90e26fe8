import BlazorBridge.Text.Quoted

/-!
# Values in a template

What a key of a template can stand for: a text, a truth value, or a thing of some other kind, which is
known by the name of its kind and the text that shows it.
-/

namespace BlazorBridge.Template

/-- What a key can stand for. -/
inductive Value where
  | text (t : Text)
  | truth (b : Bool)
  | other (kind shown : Text)
  deriving DecidableEq, Repr

namespace Value

/-- The value of a key that is not set. -/
def unset : Value := .other "NoneType".toList "None".toList

/-- The name of the kind of a value. -/
def kind : Value → Text
  | .text _ => "str".toList
  | .truth _ => "bool".toList
  | .other kind _ => kind

/-- A value as text. -/
def plain : Value → Text
  | .text t => t
  | .truth b => if b then "True".toList else "False".toList
  | .other _ shown => shown

/-- A value as it is shown: a text stands between quotes. -/
def shown : Value → Text
  | .text t => Text.quoted t
  | v => v.plain

/-- Several texts as one value. -/
def list (ts : List Text) : Value :=
  .other "list".toList ("[".toList ++ Text.join ", ".toList (ts.map Text.quoted) ++ "]".toList)

/-- Keys and their values as one value. -/
def table (fields : List (Text × Value)) : Value :=
  let entries := fields.map fun (key, value) => Text.quoted key ++ ": ".toList ++ value.shown
  .other "dict".toList ("\x7b".toList ++ Text.join ", ".toList entries ++ "\x7d".toList)

end Value

end BlazorBridge.Template

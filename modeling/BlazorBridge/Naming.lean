import BlazorBridge.Text.Blank
import BlazorBridge.Text.Case

/-!
# Names

Names of classes and methods are written in Pascal case, and a parameter whose name is a reserved
word of C# is marked with an at sign.
-/

namespace BlazorBridge.Naming

/-- Whether a character parts the words of a name. -/
def isSeparator (c : Char) : Bool := c == '-' || c == '_' || c == '.' || isBlank c

/-- The words of a name, none of them empty. -/
def words (name : Text) : List Text := (Text.split isSeparator name).filter (!·.isEmpty)

/-- A word with its first letter a capital and all others small. -/
def capitalize : Text → Text
  | [] => []
  | c :: rest => capital c ++ Text.lower rest

/-- The words of a name run together, each with its first letter a capital. -/
def pascalCase (name : Text) : Text := (words name).flatMap capitalize

/-- The reserved words of C#. -/
def reserved : List Text :=
  ["abstract", "as", "base", "bool", "break", "byte", "case", "catch", "char", "checked", "class",
   "const", "continue", "decimal", "default", "delegate", "do", "double", "else", "enum", "event",
   "explicit", "extern", "false", "finally", "fixed", "float", "for", "foreach", "goto", "if",
   "implicit", "in", "int", "interface", "internal", "is", "lock", "long", "namespace", "new",
   "null", "object", "operator", "out", "override", "params", "private", "protected", "public",
   "readonly", "ref", "return", "sbyte", "sealed", "short", "sizeof", "stackalloc", "static",
   "string", "struct", "switch", "this", "throw", "true", "try", "typeof", "uint", "ulong",
   "unchecked", "unsafe", "ushort", "using", "virtual", "void", "volatile", "while"].map
    String.toList

/-- A name that C# takes as an identifier: a reserved word gets an at sign. -/
def escape (name : Text) : Text := if name ∈ reserved then '@' :: name else name

end BlazorBridge.Naming

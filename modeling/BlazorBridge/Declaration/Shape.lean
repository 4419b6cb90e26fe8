import BlazorBridge.Text.Blank
import BlazorBridge.Text.Place
import BlazorBridge.Text.Word

/-!
# Shapes of declarations

Two shapes of declaration are recognised, and their bodies are never looked at:

    [export] [async] function NAME ( PARAMETERS ) [: RESULT] {
    [export] const|let|var NAME = [async] ( PARAMETERS ) [: RESULT] => [{]

White space must follow each keyword and may stand between all other parts. A name is a run of word
characters, and a parameter list holds no closing parenthesis. The result of a function is any text
up to the first opening brace, that of an arrow any text up to the first equals sign; neither is
empty, though it may be blank. A declaration begins where no word character stands before it, and
an arrow takes the white space behind its arrow along.

Each reader below gives what it reads at the front of a text together with what follows, so a shape
is read in one pass and in one way.
-/

namespace BlazorBridge

/-- What a declaration says: its name, its parameter list as written, its result annotation without
the white space around it (empty if there is none), and whether it carries the keyword for
asynchronous functions. -/
structure Signature where
  name : Text
  parameters : Text
  result : Text
  isAsync : Bool
  deriving DecidableEq, Repr

namespace Signature

/-! ## Parts -/

/-- What follows a keyword and the white space that must stand behind it. -/
def keyword? (word t : Text) : Option Text :=
  match Text.after? word t with
  | some (c :: rest) => if isBlank c then some (Text.trimFront rest) else none
  | _ => none

/-- Whether an optional keyword stands at the front of a text, and what follows it. -/
def optionalKeyword (word t : Text) : Bool × Text :=
  match keyword? word t with
  | some rest => (true, rest)
  | none => (false, t)

/-- The name at the front of a text, and what follows it and the white space behind it. -/
def name? (t : Text) : Option (Text × Text) :=
  match t.takeWhile isWord with
  | [] => none
  | c :: name => some (c :: name, Text.trimFront (t.dropWhile isWord))

/-- The parameter list at the front of a text, and what follows it and the white space behind it. -/
def parameters? : Text → Option (Text × Text)
  | '(' :: rest => (Text.cut ')' rest).map fun (list, after) => (list, Text.trimFront after)
  | _ => none

/-- The result annotation at the front of a text, when a colon stands there: everything up to the
first `stop`, which must be there. What follows begins with `stop`. -/
def result? (stop : Char) : Text → Option (Text × Text)
  | ':' :: rest =>
    match rest.takeWhile (· != stop), rest.dropWhile (· != stop) with
    | c :: body, next :: after => some (Text.trim (c :: body), next :: after)
    | _, _ => none
  | t => some ([], t)

/-! ## The two shapes -/

/-- Reads a function declaration at the front of a text. -/
def function? (t : Text) : Option (Signature × Text) := do
  let (_, t) := optionalKeyword "export".toList t
  let (isAsync, t) := optionalKeyword "async".toList t
  let t ← keyword? "function".toList t
  let (name, t) ← name? t
  let (parameters, t) ← parameters? t
  let (result, t) ← result? '{' t
  let t ← Text.after? ['{'] t
  return (⟨name, parameters, result, isAsync⟩, t)

/-- What follows the keyword that binds a name. -/
def binder? (t : Text) : Option Text :=
  keyword? "const".toList t <|> keyword? "let".toList t <|> keyword? "var".toList t

/-- Reads an arrow declaration at the front of a text. -/
def arrow? (t : Text) : Option (Signature × Text) := do
  let (_, t) := optionalKeyword "export".toList t
  let t ← binder? t
  let (name, t) ← name? t
  let t ← Text.after? ['='] t
  let (isAsync, t) := optionalKeyword "async".toList (Text.trimFront t)
  let (parameters, t) ← parameters? t
  let (result, t) ← result? '=' t
  let t ← Text.after? "=>".toList t
  let t := Text.trimFront t
  return (⟨name, parameters, result, isAsync⟩, (Text.after? ['{'] t).getD t)

end Signature

end BlazorBridge

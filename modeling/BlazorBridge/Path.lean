import BlazorBridge.Text.Basic
import BlazorBridge.Text.Quoted

/-!
# Paths

A path is an anchor and a list of parts. Empty parts and single dots are dropped when a path is
read, and parent steps are kept. Exactly two slashes at the front are an anchor of their own; any
other number of slashes is the root.
-/

namespace BlazorBridge

/-- Where a path starts. -/
inductive Anchor where
  | relative
  | root
  | doubleRoot
  deriving DecidableEq, Repr

/-- An anchor as it is written. -/
def Anchor.text : Anchor → Text
  | .relative => []
  | .root => ['/']
  | .doubleRoot => ['/', '/']

/-- A path. -/
structure Path where
  anchor : Anchor
  parts : List Text
  deriving DecidableEq, Repr

namespace Path

/-- The part that names the parent. -/
def parentPart : Text := ['.', '.']

/-- The part that names the directory itself. It is dropped when a path is read, and arises only where
a suffix is taken off. -/
def selfPart : Text := ['.']

/-! ## Reading and writing -/

/-- The anchor that a text begins with. -/
def anchorOf (t : Text) : Anchor :=
  match (t.takeWhile (· == '/')).length with
  | 0 => .relative
  | 2 => .doubleRoot
  | _ => .root

/-- Reads a path. -/
def ofText (t : Text) : Path :=
  ⟨anchorOf t, (Text.split (· == '/') t).filter fun part => !part.isEmpty && part != selfPart⟩

/-- Writes a path; the path without anchor and parts is a single dot. -/
def toText (p : Path) : Text :=
  match p.anchor.text ++ Text.join ['/'] p.parts with
  | [] => ['.']
  | t => t

/-- The components of a path: its anchor, if it has one, and its parts. -/
def components (p : Path) : List Text :=
  match p.anchor with
  | .relative => p.parts
  | anchor => anchor.text :: p.parts

/-- A path followed from a place: an anchored path starts over. -/
def join (p q : Path) : Path :=
  match q.anchor with
  | .relative => ⟨p.anchor, p.parts ++ q.parts⟩
  | _ => q

/-- Whether a path holds the null character, which no file name can hold. -/
def hasNull (p : Path) : Bool := p.parts.any (·.contains (Char.ofNat 0))

/-! ## Names and suffixes -/

/-- The last part; empty if there is none. -/
def name (p : Path) : Text := p.parts.getLast?.getD []

/-- Splits a name at its last dot, unless that dot is its first or last character. The dot belongs to
the suffix. -/
def splitName (name : Text) : Text × Text :=
  match Text.fromLast ['.'] name with
  | some suffix =>
    if suffix.length < name.length ∧ 1 < suffix.length then (Text.dropEnd suffix.length name, suffix)
    else (name, [])
  | none => (name, [])

/-- The name without its suffix. -/
def stem (p : Path) : Text := (splitName p.name).1

/-- The suffix of the name, with its dot. -/
def suffix (p : Path) : Text := (splitName p.name).2

/-- The directory that holds what a path names. -/
def parent (p : Path) : Path := ⟨p.anchor, p.parts.dropLast⟩

/-- Why a suffix cannot be put on a path. -/
inductive SuffixFault where
  | badSuffix (suffix : Text)
  | noName (path : Path)
  deriving DecidableEq, Repr

/-- Whether a text can be a suffix: it is empty, or a dot with something behind it and no slash. -/
def isSuffix (suffix : Text) : Bool :=
  !suffix.contains '/' && (suffix.isEmpty || (Text.startsWith ['.'] suffix && suffix != ['.']))

/-- A path with another suffix on its name. -/
def withSuffix (p : Path) (suffix : Text) : Except SuffixFault Path :=
  if !isSuffix suffix then .error (.badSuffix suffix)
  else if p.name.isEmpty then .error (.noName p)
  else .ok ⟨p.anchor, p.parts.dropLast ++ [p.stem ++ suffix]⟩

/-- The wording of a suffix fault. -/
def SuffixFault.message : SuffixFault → Text
  | .badSuffix suffix => "Invalid suffix ".toList ++ Text.quoted suffix
  | .noName path =>
    "PosixPath(".toList ++ Text.quoted path.toText ++ ") has an empty name".toList

end Path

/-! ## Locations -/

/-- A place in the file system: the names on the way to it from the root. -/
abbrev Location := List Text

namespace Location

/-- The location as a path. -/
def toPath (l : Location) : Path := ⟨.root, l⟩

/-- One step of a path: a parent step leaves the last name, and stays at the root; a step to the
directory itself stays where it is. -/
def step (l : Location) (part : Text) : Location :=
  if part = Path.parentPart then l.dropLast
  else if part = Path.selfPart then l
  else l ++ [part]

/-- Where a path leads from a directory, by its parts alone. -/
def follow (directory : Location) (p : Path) : Location :=
  p.parts.foldl step (match p.anchor with | .relative => directory | _ => [])

/-- The order of locations: name by name, each by code point. -/
def le (a b : Location) : Bool := decide (¬ b < a)

/-- What is left of a location below a directory, when it lies there. -/
def below? : (directory : Location) → Location → Option Location
  | [], l => some l
  | _ :: _, [] => none
  | d :: ds, n :: ns => if d = n then below? ds ns else none

/-- A location lies below a directory exactly when it goes on from there. -/
theorem below?_eq_some_iff {directory l rest : Location} :
    below? directory l = some rest ↔ l = directory ++ rest := by
  fun_induction below? directory l with
  | case1 l => simp
  | case2 d ds => simp
  | case3 ds n ns ih => simp [ih]
  | case4 d ds n ns h => simp [Ne.symm h]

end Location

end BlazorBridge

import BlazorBridge.FileTree
import BlazorBridge.Pattern.Wildcard

/-!
# File patterns

A pattern is a path whose components may be wildcards. The components before the first wildcard lead
to a base directory, and the search goes on from there. A component of two stars stands for any
number of directories, and two stars may not stand beside anything else in a component.
-/

namespace BlazorBridge

/-- One component of a pattern. -/
inductive Component where
  | anyDepth
  | wild (wildcard : Wildcard)
  | exactly (name : Text)
  deriving DecidableEq, Repr

namespace Component

/-- Whether a component holds a wildcard. -/
def isWild (part : Text) : Bool := part.any fun c => c == '*' || c == '?' || c == '['

/-- Reads a component; none if two stars stand beside something else. -/
def ofText? (part : Text) : Option Component :=
  if part = ['*', '*'] then some .anyDepth
  else if Text.has ['*', '*'] part then none
  else if isWild part then some (.wild (Wildcard.ofText part))
  else some (.exactly part)

end Component

namespace Pattern

/-! ## The base directory -/

/-- A pattern split in two: the path of a base directory, and the components to search for there. -/
structure Split where
  base : Path
  relative : List Text
  deriving DecidableEq, Repr

/-- Splits the components of a pattern in front of the first wildcard, or in front of the last
component if there is none. -/
def cutComponents (components : List Text) : List Text × List Text :=
  if components.any Component.isWild then
    (components.takeWhile (!Component.isWild ·), components.dropWhile (!Component.isWild ·))
  else (components.dropLast, components.drop (components.length - 1))

/-- Splits a pattern, given the directory that relative patterns start from. An anchor counts as a
component of its own. -/
def split (directory : Path) (pattern : Text) : Split :=
  let p := Path.ofText pattern
  let (front, relative) := cutComponents p.components
  match p.anchor, front with
  | .relative, _ => ⟨directory.join ⟨.relative, front⟩, relative⟩
  | _, [] => ⟨directory, relative⟩
  | anchor, _ :: parts => ⟨⟨anchor, parts⟩, relative⟩

/-- The components to search for, as one text. -/
def Split.relativeText (s : Split) : Text := Text.join ['/'] s.relative

/-! ## The search -/

/-- Whether the path that parts lead to from the base can be looked at. A search breaks off at the first
path that is too long for that. -/
def reach (base : Path) (spelled : List Text) : Except Path Unit :=
  let p := base.join ⟨.relative, spelled⟩
  if FileTree.isBeyondReach p then .error p else .ok ()

/-- The same for a part that is asked for by name; a name that is longer than any name is refused too. -/
def reachName (base : Path) (spelled : List Text) (name : Text) : Except Path Unit :=
  if FileTree.isOverlong name then .error (base.join ⟨.relative, spelled ++ [name]⟩)
  else reach base (spelled ++ [name])

/-- What is found for all members of a list, in order, unless the search breaks off. -/
def collect {α β : Type} (search : α → Except Path (List β)) : List α → Except Path (List β)
  | [] => .ok []
  | a :: rest =>
    match search a with
    | .error path => .error path
    | .ok found => (collect search rest).map (found ++ ·)

/-- What the components lead to from a directory: the parts as they are spelled from the base, and the
location. All but the last must lead to directories. A place is listed once for each spelling. A
directory is looked at before those below it. -/
def select (t : FileTree) (base : Path) :
    List Component → List Text → Location → Except Path (List (List Text × Location))
  | [], spelled, l => (reach base spelled).map fun _ => [(spelled, l)]
  | .exactly name :: rest, spelled, l =>
    if name.contains (Char.ofNat 0) then .ok []
    else
      match reachName base spelled name with
      | .error path => .error path
      | .ok _ =>
        let next := Location.step l name
        if if rest.isEmpty then (t.node? next).isSome else t.isDirectory next then
          select t base rest (spelled ++ [name]) next
        else .ok []
  | .wild wildcard :: rest, spelled, l =>
    match reach base spelled with
    | .error path => .error path
    | .ok _ =>
      collect
        (fun name =>
          if Wildcard.fits wildcard name && (rest.isEmpty || t.isDirectory (l ++ [name])) then
            select t base rest (spelled ++ [name]) (l ++ [name])
          else .ok [])
        (t.names l)
  | .anyDepth :: rest, spelled, l =>
    let found := collect
      (fun way =>
        match select t base rest (spelled ++ way) (l ++ way) with
        | .error path => .error path
        | .ok found => (reach base (spelled ++ way)).map fun _ => found)
      ((t.directoriesBelow l).mergeSort Location.le)
    found.map List.eraseDups

/-- The files that match a pattern, in the order of their locations. A file is listed once for each
spelling that leads to it. Relative patterns start from `directory`, or from the working directory. -/
def find (t : FileTree) (directory : Option Path) (pattern : Text) :
    Except Fault (List Location) :=
  let s := split (directory.getD t.here.toPath) pattern
  match s.relative, t.locate s.base with
  | [], _ => .ok []
  | _, .error .nameTooLong =>
    if s.base.hasNull then .ok [] else .error (.unsearchable s.base .nameTooLong)
  | _, .error _ => .ok []
  | first :: more, .ok base =>
    if !t.isDirectory base then .ok []
    else if first.contains '/' then .error .anchoredPattern
    else
      match (first :: more).mapM Component.ofText? with
      | none => .error .partialDoubleStar
      | some components =>
        match select t s.base components [] base with
        | .error path => .error (.unsearchable path .nameTooLong)
        | .ok found =>
          .ok (((found.map Prod.snd).filter fun l => (t.file? l).isSome).mergeSort Location.le)

end Pattern

end BlazorBridge

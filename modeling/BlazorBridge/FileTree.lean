import BlazorBridge.Fault

/-!
# File trees

The file system as a run sees it: a working directory, and what stands at each location. The root is
always a directory. There are no links, so a path leads to one location.
-/

namespace BlazorBridge

/-- What stands at a location. -/
inductive Node where
  | file (bytes : List UInt8)
  | directory
  deriving DecidableEq, Repr

/-- A file system: the working directory, and what stands at each location other than the root. -/
structure FileTree where
  here : Location
  entries : List (Location × Node)
  deriving DecidableEq, Repr

namespace FileTree

/-! ## Looking -/

/-- What stands at a location. -/
def node? (t : FileTree) (l : Location) : Option Node :=
  if l = [] then some .directory else t.entries.lookup l

/-- Whether a directory stands at a location. -/
def isDirectory (t : FileTree) (l : Location) : Bool := t.node? l == some .directory

/-- The bytes of the file at a location. -/
def file? (t : FileTree) (l : Location) : Option (List UInt8) :=
  match t.node? l with
  | some (.file bytes) => some bytes
  | _ => none

/-- The names in a directory. -/
def names (t : FileTree) (directory : Location) : List Text :=
  t.entries.filterMap fun (l, _) =>
    match Location.below? directory l with
    | some [name] => some name
    | _ => none

/-- The ways from a directory to itself and to every directory below it. -/
def directoriesBelow (t : FileTree) (directory : Location) : List Location :=
  [] :: t.entries.filterMap fun (l, node) =>
    match node, Location.below? directory l with
    | .directory, some (name :: rest) => some (name :: rest)
    | _, _ => none

/-- The most bytes that a name can have. -/
def longestName : Nat := 255

/-- The most bytes that a path can have. -/
def longestPath : Nat := 4095

/-- Whether a name is longer than any name in a directory. -/
def isOverlong (name : Text) : Bool := longestName < (Utf8.encode name).length

/-- Whether a path is too long to be looked at. -/
def isBeyondReach (p : Path) : Bool := longestPath < (Utf8.encode p.toText).length

/-- Where the parts of a path lead. Each part but the last must lead to a directory, and no part may
be too long for a name. -/
def walk (t : FileTree) : Location → List Text → Except StoreCause Location
  | l, [] => .ok l
  | l, part :: parts =>
    match t.node? l with
    | some .directory =>
      if isOverlong part then .error .nameTooLong else walk t (Location.step l part) parts
    | some (.file _) => .error .notDirectory
    | none => .error .missing

/-- Where a path leads. -/
def locate (t : FileTree) (p : Path) : Except StoreCause Location :=
  if isBeyondReach p then .error .nameTooLong
  else
    match p.anchor with
    | .relative => t.walk t.here p.parts
    | _ => t.walk [] p.parts

/-- The bytes of the file that a path leads to. -/
def read (t : FileTree) (p : Path) : Except StoreCause (List UInt8) :=
  match t.locate p with
  | .error cause => .error cause
  | .ok l =>
    match t.node? l with
    | some (.file bytes) => .ok bytes
    | some .directory => .error .isDirectory
    | none => .error .missing

/-! ## Changing -/

/-- Puts a node at a location, in place of what stands there. -/
def put (t : FileTree) (l : Location) (node : Node) : FileTree :=
  { t with entries := (l, node) :: t.entries.filter (fun entry => decide (entry.1 ≠ l)) }

theorem lookup_filter_ne {α : Type} (l k : Location) (h : k ≠ l) (entries : List (Location × α)) :
    (entries.filter fun entry => decide (entry.1 ≠ l)).lookup k = entries.lookup k := by
  induction entries with
  | nil => rfl
  | cons entry entries ih =>
    obtain ⟨m, node⟩ := entry
    by_cases hm : m = l
    · subst hm
      rw [List.filter_cons_of_neg (by simp), ih, List.lookup_cons, beq_eq_false_iff_ne.2 h]
    · rw [List.filter_cons_of_pos (by simp [hm]), List.lookup_cons, List.lookup_cons, ih]

/-- What is put at a location stands there, and everything else stays. -/
theorem node?_put (t : FileTree) (l k : Location) (node : Node) :
    (t.put l node).node? k =
      if k = [] then some .directory else if k = l then some node else t.node? k := by
  unfold node? put
  by_cases hk : k = []
  · simp [hk]
  · by_cases hl : k = l
    · simp [hl]
    · simp only [hk, hl, if_false]
      rw [List.lookup_cons, beq_eq_false_iff_ne.2 hl, lookup_filter_ne l k hl]

/-- Writes a file where a path leads. -/
def write (t : FileTree) (p : Path) (bytes : List UInt8) : Except StoreCause FileTree :=
  match t.locate p with
  | .error cause => .error cause
  | .ok l =>
    match t.node? l with
    | some .directory => .error .isDirectory
    | _ => .ok (t.put l (.file bytes))

/-- Makes a directory and those on the way to it, where nothing stands yet. -/
def makeDirectory (t : FileTree) (l : Location) : FileTree :=
  ((List.range l.length).map fun n => l.take (n + 1)).foldl
    (fun t d => if (t.node? d).isNone then t.put d .directory else t) t

/-- Takes away what stands at a location and below it. -/
def remove (t : FileTree) (l : Location) : FileTree :=
  { t with entries := t.entries.filter fun entry => (Location.below? l entry.1).isNone }

/-- A change made from outside. -/
inductive Edit where
  | file (bytes : List UInt8)
  | directory
  | remove
  deriving DecidableEq, Repr

/-- Makes a change at a location. A file or directory brings the directories on the way to it. -/
def edit (t : FileTree) (l : Location) : Edit → FileTree
  | .file bytes => (t.makeDirectory l.dropLast).put l (.file bytes)
  | .directory => t.makeDirectory l
  | .remove => t.remove l

/-- Makes changes in order. -/
def editAll (t : FileTree) (edits : List (Location × Edit)) : FileTree :=
  edits.foldl (fun t (l, e) => t.edit l e) t

/-- A tree that holds nothing but an empty working directory. -/
def empty (here : Location) : FileTree := makeDirectory ⟨here, []⟩ here

/-! ## Comparing -/

/-- The locations of the files of a tree. -/
def files (t : FileTree) : List Location :=
  t.entries.filterMap fun (l, node) =>
    match node with
    | .file _ => some l
    | .directory => none

/-- The files whose bytes differ between two trees, each with its bytes in the second, if it is
there. -/
def changes (old new : FileTree) : List (Location × Option (List UInt8)) :=
  ((old.files ++ new.files).eraseDups.filter fun l => old.file? l != new.file? l).map
    fun l => (l, new.file? l)

end FileTree

end BlazorBridge

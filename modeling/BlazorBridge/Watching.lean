import BlazorBridge.Generation

/-!
# Watching

After a first pass over all files that match a pattern, the directories that hold them are watched,
and the files that change are generated anew. Changes arrive in batches; those of no interest are
filtered out, and of the others only files that match the pattern are looked at.
-/

namespace BlazorBridge

/-- What happened to a file. -/
inductive ChangeKind where
  | added
  | modified
  | deleted
  deriving DecidableEq, Repr

/-- A change of a file, as it is reported. -/
structure Change where
  kind : ChangeKind
  path : Text
  deriving DecidableEq, Repr

namespace Change

/-- Directories whose content is never looked at. -/
def ignoredDirectories : List Text :=
  ["__pycache__", ".git", ".hg", ".svn", ".tox", ".venv", ".idea", "node_modules", ".mypy_cache",
   ".pytest_cache", ".hypothesis"].map String.toList

/-- The parts of a reported path, without the slashes at its front. -/
def parts (path : Text) : List Text := Text.split (· == '/') (path.dropWhile (· == '/'))

/-- Whether a file is one that an editor leaves beside a source while it is worked on. -/
def isEditorFile (name : Text) : Bool :=
  Text.startsWith ".#".toList name || Text.startsWith "flycheck_".toList name

/-- Whether a change is of interest: a source is added or modified, outside the ignored directories,
and not by an editor for itself. -/
def isRelevant (c : Change) : Bool :=
  c.kind != .deleted && Text.endsWith ".js".toList c.path &&
    !(parts c.path).any ignoredDirectories.contains &&
    !isEditorFile ((parts c.path).getLast?.getD [])

end Change

/-- What happens between two looks at the files: edits of the tree, and the changes reported. -/
structure Batch where
  edits : List (Location × FileTree.Edit) := []
  changes : List Change := []
  deriving DecidableEq, Repr

namespace Watching

/-! ## Regeneration -/

/-- The locations that reported paths lead to, each once and in order. -/
def changedLocations (here : Location) (paths : List Text) : List Location :=
  (paths.map fun path => Location.follow here (Path.ofText path)).eraseDups.mergeSort Location.le

/-- Generates the changed files that match, in order, and gives those that did not fail. -/
def regenerateEach (options : Options) (matching : List Location) (t : FileTree) :
    List Location → Run (List Location)
  | [] => .done t [] []
  | l :: rest =>
    if l ∈ matching then
      ((Generation.generateFiles options t [l.toPath]).after [.changed l.toPath]).andThen
        fun t failures =>
          let others := regenerateEach options matching t rest
          { others with
            outcome := others.outcome.map fun done => if failures = 0 then l :: done else done }
    else (regenerateEach options matching t rest).after [.ignored l.toPath]

/-- Generates anew those of the changed files that match a pattern, and gives the files that were
generated. -/
def regenerate (options : Options) (directory : Option Path) (pattern : Text) (changes : List Change)
    (t : FileTree) : Run (List Location) :=
  match Pattern.find t directory pattern with
  | .error fault => .stop t [] fault
  | .ok matching =>
    if changes.any fun c => (Path.ofText c.path).hasNull then .stop t [] .nullInPath
    else regenerateEach options matching t (changedLocations t.here (changes.map Change.path))

/-! ## The watch -/

/-- The directories to watch for a list of files, each once and in order. -/
def directoriesOf (files : List Location) : List Text :=
  (files.map fun l => l.toPath.parent.toText).eraseDups.mergeSort Text.le

/-- One batch: the edits are made, and the changes of interest are handled, if there are any. -/
def batch (options : Options) (directory : Option Path) (pattern : Text) (t : FileTree) (b : Batch) :
    Run Unit :=
  let t := t.editAll b.edits
  match b.changes.filter Change.isRelevant with
  | [] => .done t [] ()
  | change :: changes =>
    (regenerate options directory pattern (change :: changes) t).andThen fun t _ => .done t [] ()

/-- Batches in order. -/
def batches (options : Options) (directory : Option Path) (pattern : Text) (t : FileTree) :
    List Batch → Run Unit
  | [] => .done t [] ()
  | b :: rest =>
    (batch options directory pattern t b).andThen fun t _ => batches options directory pattern t rest

/-- What a watch comes to: the failures of its first pass, and the directories it watched. -/
structure Summary where
  failures : Nat
  watched : List Text
  deriving DecidableEq, Repr

/-- The first pass of a watch: all matching files are generated, and the directories to watch are
given. Nothing is watched if nothing matches. -/
def start (options : Options) (directory : Option Path) (pattern : Text) (t : FileTree) :
    Run Summary :=
  match Pattern.find t directory pattern with
  | .error fault => .stop t [] fault
  | .ok [] => .done t [.noMatch pattern] ⟨0, []⟩
  | .ok (first :: more) =>
    let files := first :: more
    (Generation.generateFiles options t (files.map Location.toPath)).andThen fun t failures =>
      .done t [.watching files.length, .howToStop] ⟨failures, directoriesOf files⟩

/-- A whole watch: the first pass, the batches, and the end. -/
def watch (options : Options) (directory : Option Path) (pattern : Text) (arriving : List Batch)
    (t : FileTree) : Run Summary :=
  (start options directory pattern t).andThen fun t summary =>
    if summary.watched.isEmpty then .done t [] summary
    else
      (batches options directory pattern t arriving).andThen fun t _ => .done t [.stopped] summary

end Watching

end BlazorBridge

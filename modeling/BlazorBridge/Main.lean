import BlazorBridge.CommandLine

/-!
# The program

The outer layer: what stands on the disk is read into a tree, the program runs on the tree, and the
files that differ afterwards are written back. A watch looks at the disk at short intervals, and the
files that differ from the last look are the changes of a batch.
-/

namespace BlazorBridge.Program

/-- The location that an absolute path names. -/
def locationOf (path : String) : Location := Location.follow [] (Path.ofText path.toList)

/-- A location as a path for the operating system. -/
def pathOf (l : Location) : String := String.ofList l.toPath.toText

/-- What stands below a directory on the disk. What cannot be read is left out. -/
partial def load (l : Location) : IO (List (Location × Node)) := do
  let directory := (← IO.currentDir) / pathOf l
  let found ← try directory.readDir catch _ => pure #[]
  let below ← found.toList.mapM fun entry => do
    let l := l ++ [entry.fileName.toList]
    if ← entry.path.isDir then
      return (l, Node.directory) :: (← load l)
    else
      try return [(l, Node.file (← IO.FS.readBinFile entry.path).toList)]
      catch _ => return []
  return below.flatten

/-- The directory below which all files that a pattern can match lie. -/
def baseOf (here : Location) (pattern : Text) : Location :=
  let s := Pattern.split here.toPath pattern
  let base := Location.follow here s.base
  base.take (base.length - s.relative.count Path.parentPart)

/-- The part of the disk that matters for a pattern. -/
def loadTree (here : Location) (pattern : Text) : IO FileTree := do
  let base := baseOf here pattern
  let tree : FileTree := ⟨here, ← load base⟩
  if ← ((← IO.currentDir) / pathOf base).isDir then
    return (tree.makeDirectory base).makeDirectory here
  else
    return tree.makeDirectory here

/-- Writes back the files that differ between two trees. -/
def save (old new : FileTree) : IO Unit :=
  (FileTree.changes old new).forM fun (l, bytes) =>
    match bytes with
    | some bytes => IO.FS.writeBinFile (pathOf l) ⟨bytes.toArray⟩
    | none => pure ()

/-- Prints what broke the program off, and gives its exit status. -/
def failWith (failure : CommandLine.Failure) : IO UInt32 := do
  IO.eprintln (String.ofList failure.message)
  return 1

/-- The changes between two looks at the disk. -/
def changesBetween (old new : FileTree) : List Change :=
  (FileTree.changes old new).map fun (l, bytes) =>
    let kind : ChangeKind :=
      match old.file? l, bytes with
      | none, _ => .added
      | _, none => .deleted
      | _, some _ => .modified
    ⟨kind, l.toPath.toText⟩

/-- Prints the log of a run and writes back what it changed. -/
def finish {α : Type} (verbose : Bool) (old : FileTree) (r : Run α) : IO Unit := do
  IO.eprint (String.ofList (CommandLine.logText .program verbose r.events))
  save old r.tree

/-- Handles batches until the program is stopped. -/
partial def follow (s : CommandLine.Settings) (options : Options) (pattern : Text) (last : FileTree) :
    IO UInt32 := do
  IO.sleep 500
  let tree ← loadTree last.here pattern
  let r := Watching.batch options none pattern tree ⟨[], changesBetween last tree⟩
  finish s.verbose tree r
  match r.outcome with
  | .ok _ => follow s options pattern r.tree
  | .error fault => failWith (.files fault)

/-- Watches until the program is stopped. -/
def watch (s : CommandLine.Settings) (options : Options) (pattern : Text) (tree : FileTree) :
    IO UInt32 := do
  let r := Watching.start options none pattern tree
  finish s.verbose tree r
  match r.outcome with
  | .error fault => failWith (.files fault)
  | .ok summary =>
    if summary.watched.isEmpty then return UInt32.ofNat (CommandLine.statusOf summary.failures)
    else follow s options pattern r.tree

/-- Runs the program without a watch. -/
def once (setting : Option Text) (arguments : List Text) (tree : FileTree) : IO UInt32 := do
  match CommandLine.run .program setting arguments [] tree with
  | .error failure => failWith failure
  | .ok result =>
    IO.print (String.ofList result.output)
    IO.eprint (String.ofList result.errors)
    save tree result.tree
    return UInt32.ofNat result.status

end BlazorBridge.Program

open BlazorBridge in
/-- Runs the program on the files of the disk. -/
def main (arguments : List String) : IO UInt32 := do
  let here := Program.locationOf (← IO.currentDir).toString
  let setting := (← IO.getEnv (String.ofList namespaceVariable)).map String.toList
  let arguments := arguments.map String.toList
  match CommandLine.readRequest (defaultNamespace setting) arguments with
  | .ok (.settings s _) =>
    match s.input.join with
    | none => Program.once setting arguments (FileTree.empty here)
    | some pattern =>
      let tree ← Program.loadTree here pattern
      match s.watch, s.space.bind Options.ofNamespace? with
      | true, some options => Program.watch s options pattern tree
      | _, _ => Program.once setting arguments tree
  | _ => Program.once setting arguments (FileTree.empty here)

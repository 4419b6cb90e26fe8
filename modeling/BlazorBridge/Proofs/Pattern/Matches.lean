import BlazorBridge.Proofs.FileTree.WellFormed
import BlazorBridge.Proofs.Pattern.Split

/-!
# What a pattern matches

The components of a pattern are matched one by one against the names on the way from the base directory
to a file (`Component.Fits`). A file matches a pattern if the names on its way are matched
(`Pattern.Matches`). Whether a file does so is settled by its location, once the base directory is there
(`Matches.mono`, `Matches.of_keepsDirectories`).

Main statement (`mem_find_iff`): in a well-formed tree, a search that does not break off lists exactly
the files that match, provided that the pattern has no parent steps.
-/

namespace BlazorBridge

namespace Component

/-- Whether components match the names on the way from a directory to a file. Two stars stand for any
number of directories, and a file is never among these. -/
inductive Fits : List Component → List Text → Prop
  | nil : Fits [] []
  | exactly {name : Text} {rest : List Component} {names : List Text} (hrest : Fits rest names) :
      Fits (.exactly name :: rest) (name :: names)
  | wild {wildcard : Wildcard} {name : Text} {rest : List Component} {names : List Text}
      (hname : Wildcard.fits wildcard name = true) (hrest : Fits rest names) :
      Fits (.wild wildcard :: rest) (name :: names)
  | anyDepth {rest : List Component} {way names : List Text} (hnames : names ≠ [])
      (hrest : Fits rest names) : Fits (.anyDepth :: rest) (way ++ names)

theorem Fits.ne_nil {components : List Component} {names : List Text} (h : Fits components names)
    (hne : components ≠ []) : names ≠ [] := by
  cases h with
  | nil => exact absurd rfl hne
  | exactly hrest => simp
  | wild hname hrest => simp
  | anyDepth hnames hrest => simp [hnames]

end Component

namespace Pattern

open Component (Fits)

variable {t u : FileTree} {directory : Option Path} {pattern : Text} {l k base : Location}
  {components : List Component}

/-! ## Matching -/

/-- The base directory that a pattern leads to, and the components to search for there. -/
structure Based (t : FileTree) (directory : Option Path) (pattern : Text) (base : Location)
    (components : List Component) : Prop where
  located : t.locate (split (directory.getD t.here.toPath) pattern).base = .ok base
  isDirectory : t.node? base = some .directory
  read : (split (directory.getD t.here.toPath) pattern).relative.mapM Component.ofText? =
    some components

/-- Whether a location holds a file that matches a pattern. -/
def Matches (t : FileTree) (directory : Option Path) (pattern : Text) (l : Location) : Prop :=
  ∃ base components way, Based t directory pattern base components ∧ Fits components way ∧
    l = base ++ way ∧ (t.file? l).isSome

theorem Based.mono (h : Based t directory pattern base components) (hkeeps : t.KeepsDirectories u) :
    Based u directory pattern base components := by
  refine ⟨?_, hkeeps.directories base h.isDirectory, ?_⟩
  · rw [hkeeps.here]
    exact hkeeps.locate h.located
  · rw [hkeeps.here]
    exact h.read

theorem Based.unique {base' : Location} {components' : List Component}
    (h : Based t directory pattern base components)
    (h' : Based t directory pattern base' components') : base' = base ∧ components' = components :=
  ⟨Except.ok.inj (h'.located.symm.trans h.located), Option.some.inj (h'.read.symm.trans h.read)⟩

theorem Matches.isSome_file? (h : Matches t directory pattern l) : (t.file? l).isSome := by
  obtain ⟨-, -, -, -, -, -, hfile⟩ := h
  exact hfile

theorem Matches.isResolved (h : Matches t directory pattern l) (ht : t.WellFormed) :
    l.IsResolved :=
  ht.isResolved (FileTree.isSome_node?_of_isSome_file? h.isSome_file?)

theorem Matches.mono (h : Matches t directory pattern l) (hkeeps : t.KeepsDirectories u)
    (hfile : (u.file? l).isSome) : Matches u directory pattern l := by
  obtain ⟨base, components, way, hbased, hfits, hl, -⟩ := h
  exact ⟨base, components, way, hbased.mono hkeeps, hfits, hl, hfile⟩

theorem map_eq_ok_iff {α β ε : Type} {f : α → β} {x : Except ε α} {b : β} :
    x.map f = .ok b ↔ ∃ a, x = .ok a ∧ f a = b := by
  cases x with
  | error e => simp [Except.map]
  | ok a => simp [Except.map]

/-- What is found for a list is what is found for its members, and the search breaks off for none. -/
theorem collect_eq_ok {α β : Type} {search : α → Except Path (List β)} {as : List α}
    {found : List β} (h : collect search as = .ok found) :
    (∀ a ∈ as, ∃ bs, search a = .ok bs) ∧
      ∀ b, b ∈ found ↔ ∃ a ∈ as, ∃ bs, search a = .ok bs ∧ b ∈ bs := by
  induction as generalizing found with
  | nil =>
    obtain rfl := Except.ok.inj h
    simp
  | cons a as ih =>
    rw [collect] at h
    split at h
    · simp at h
    · rename_i bs hbs
      obtain ⟨rest, hrest, rfl⟩ := map_eq_ok_iff.1 h
      obtain ⟨ihall, ihmem⟩ := ih hrest
      refine ⟨?_, fun b => ?_⟩
      · intro a' ha'
        rcases List.mem_cons.1 ha' with rfl | ha'
        · exact ⟨bs, hbs⟩
        · exact ihall a' ha'
      · rw [List.mem_append, ihmem]
        simp [hbs]

/-- The first place on the way to a file is there, and it is a directory if components are left. -/
theorem stands_of_fits (h : t.WellFormed) {name : Text} {rest : List Component}
    {names : List Text} (hfits : Fits rest names) (hfile : (t.file? (l ++ name :: names)).isSome) :
    (t.node? (l ++ [name])).isSome ∧ (rest ≠ [] → t.node? (l ++ [name]) = some .directory) := by
  have hsome := FileTree.isSome_node?_of_isSome_file? hfile
  rw [List.append_cons] at hsome
  by_cases hnames : names = []
  · refine ⟨by simpa [hnames] using hsome, fun hrest => absurd hnames (hfits.ne_nil hrest)⟩
  · have hdirectory := h.directory_of_append hnames hsome
    exact ⟨by rw [hdirectory]; rfl, fun _ => hdirectory⟩

/-- Components find what they match: a search for them from a directory that does not break off finds
the files whose names on the way match. -/
def Finds (t : FileTree) (p : Path) (components : List Component) : Prop :=
  ∀ spelled l found, (components ≠ [] → t.node? l = some .directory) →
    select t p components spelled l = .ok found → ∀ k, (t.file? k).isSome →
      ((∃ s, (s, k) ∈ found) ↔ ∃ way, k = l ++ way ∧ Fits components way)

theorem Finds.exactly {p : Path} {rest : List Component} (h : t.WellFormed) (hrest : Finds t p rest)
    {name : Text} (hparent : name ≠ Path.parentPart) (hself : name ≠ Path.selfPart) :
    Finds t p (.exactly name :: rest) := by
  rintro spelled l found - hfound k hfile
  have hstep : Location.step l name = l ++ [name] := by simp [Location.step, hparent, hself]
  rw [select] at hfound
  split at hfound
  · -- No file has a null character in its name.
    rename_i hnull
    obtain rfl := Except.ok.inj hfound
    simp only [List.not_mem_nil, exists_false, false_iff]
    rintro ⟨way, rfl, hfits⟩
    cases hfits with
    | exactly hfits =>
      have hresolved := h.isResolved (FileTree.isSome_node?_of_isSome_file? hfile) name (by simp)
      exact hresolved.noNull (by simpa using hnull)
  · split at hfound
    · simp at hfound
    · simp only [hstep] at hfound
      by_cases hnext : (if rest.isEmpty = true then (t.node? (l ++ [name])).isSome
          else t.isDirectory (l ++ [name])) = true
      · rw [if_pos hnext] at hfound
        have hdirectory : rest ≠ [] → t.node? (l ++ [name]) = some .directory := by
          intro hne
          simpa [hne, FileTree.isDirectory] using hnext
        rw [hrest _ _ _ hdirectory hfound k hfile]
        constructor
        · rintro ⟨names, rfl, hfits⟩
          exact ⟨name :: names, by rw [← List.append_cons], .exactly hfits⟩
        · rintro ⟨way, rfl, hfits⟩
          cases hfits with
          | @exactly _ _ names hfits => exact ⟨names, by rw [← List.append_cons], hfits⟩
      · rw [if_neg hnext] at hfound
        obtain rfl := Except.ok.inj hfound
        simp only [List.not_mem_nil, exists_false, false_iff]
        rintro ⟨way, rfl, hfits⟩
        cases hfits with
        | exactly hfits =>
          obtain ⟨hsome, hdirectory⟩ := stands_of_fits h hfits hfile
          apply hnext
          split
          · exact hsome
          · rename_i hne
            simp [FileTree.isDirectory, hdirectory (by simpa using hne)]

theorem Finds.wild {p : Path} {rest : List Component} (h : t.WellFormed) (hrest : Finds t p rest)
    (wildcard : Wildcard) : Finds t p (.wild wildcard :: rest) := by
  rintro spelled l found - hfound k hfile
  rw [select] at hfound
  split at hfound
  · simp at hfound
  · obtain ⟨hall, hmem⟩ := collect_eq_ok hfound
    constructor
    · rintro ⟨s, hs⟩
      obtain ⟨name, -, below, hbelow, hs⟩ := (hmem _).1 hs
      split at hbelow
      · rename_i hname
        rw [Bool.and_eq_true] at hname
        have hdirectory : rest ≠ [] → t.node? (l ++ [name]) = some .directory := by
          intro hne
          simpa [hne, FileTree.isDirectory] using hname.2
        obtain ⟨names, rfl, hfits⟩ := (hrest _ _ _ hdirectory hbelow k hfile).1 ⟨s, hs⟩
        exact ⟨name :: names, by rw [← List.append_cons], .wild hname.1 hfits⟩
      · obtain rfl := Except.ok.inj hbelow
        simp at hs
    · rintro ⟨way, rfl, hfits⟩
      cases hfits with
      | @wild _ name _ names hname hfits =>
        obtain ⟨hsome, hdirectory⟩ := stands_of_fits h hfits hfile
        have hlisted : name ∈ t.names l := FileTree.mem_names_iff.2 hsome
        have hnext : (rest.isEmpty || t.isDirectory (l ++ [name])) = true := by
          by_cases hne : rest = []
          · simp [hne]
          · simp [FileTree.isDirectory, hdirectory hne]
        obtain ⟨below, hsearch⟩ := hall name hlisted
        have hbelow := hsearch
        rw [hname, hnext, Bool.and_self, if_pos rfl] at hbelow
        obtain ⟨s, hs⟩ := (hrest _ _ _ hdirectory hbelow _ hfile).2
          ⟨names, by rw [← List.append_cons], hfits⟩
        exact ⟨s, (hmem _).2 ⟨name, hlisted, below, hsearch, hs⟩⟩

theorem Finds.anyDepth {p : Path} {rest : List Component} (h : t.WellFormed)
    (hrest : Finds t p rest) : Finds t p (.anyDepth :: rest) := by
  intro spelled l found hdirectory hfound k hfile
  have hl := hdirectory (by simp)
  -- The ways that are searched lead to directories.
  have hways (way : Location) :
      way ∈ (t.directoriesBelow l).mergeSort Location.le ↔ t.node? (l ++ way) = some .directory := by
    rw [List.mem_mergeSort, h.mem_directoriesBelow_iff]
    by_cases hway : way = []
    · simp [hway, hl]
    · simp [hway]
  rw [select] at hfound
  obtain ⟨all, hcollect, rfl⟩ := map_eq_ok_iff.1 hfound
  obtain ⟨hall, hmem⟩ := collect_eq_ok hcollect
  simp only [List.mem_eraseDups]
  constructor
  · rintro ⟨s, hs⟩
    obtain ⟨way, hway, below, hbelow, hs⟩ := (hmem _).1 hs
    rw [hways] at hway
    split at hbelow
    · simp at hbelow
    · rename_i hselect
      obtain ⟨-, -, rfl⟩ := map_eq_ok_iff.1 hbelow
      obtain ⟨names, rfl, hfits⟩ := (hrest _ _ _ (fun _ => hway) hselect k hfile).1 ⟨s, hs⟩
      refine ⟨way ++ names, by rw [List.append_assoc], .anyDepth ?_ hfits⟩
      rintro rfl
      rw [List.append_nil, FileTree.file?_of_directory hway] at hfile
      simp at hfile
  · rintro ⟨_, rfl, hfits⟩
    cases hfits with
    | @anyDepth _ way names hnames hfits =>
      rw [← List.append_assoc] at hfile ⊢
      have hway := h.directory_of_append hnames (FileTree.isSome_node?_of_isSome_file? hfile)
      obtain ⟨below, hsearch⟩ := hall way ((hways way).2 hway)
      have hbelow := hsearch
      split at hbelow
      · simp at hbelow
      · rename_i hselect
        obtain ⟨-, -, rfl⟩ := map_eq_ok_iff.1 hbelow
        obtain ⟨s, hs⟩ := (hrest _ _ _ (fun _ => hway) hselect _ hfile).2 ⟨names, rfl, hfits⟩
        exact ⟨s, (hmem _).2 ⟨way, (hways way).2 hway, _, hsearch, hs⟩⟩

/-- A search that does not break off has nothing to look for in a base directory, or lists the files
among what the components lead to from there. -/
theorem find_eq_ok {files : List Location} (hfind : find t directory pattern = .ok files) :
    (files = [] ∧ ∀ base components, Based t directory pattern base components → components = []) ∨
      ∃ base components found, Based t directory pattern base components ∧
        select t (split (directory.getD t.here.toPath) pattern).base components [] base =
          .ok found ∧
        files =
          ((found.map Prod.snd).filter fun l => (t.file? l).isSome).mergeSort Location.le := by
  have hmissing {cause : StoreCause}
      (h : t.locate (split (directory.getD t.here.toPath) pattern).base = .error cause)
      (base : Location) (components : List Component)
      (hbased : Based t directory pattern base components) : components = [] := by
    have hlocated := hbased.located
    rw [h] at hlocated
    exact absurd hlocated (by simp)
  unfold find at hfind
  simp only at hfind
  split at hfind
  · rename_i hrelative
    refine .inl ⟨(Except.ok.inj hfind).symm, fun base components hbased => ?_⟩
    have hread := hbased.read
    rw [hrelative] at hread
    simpa using hread.symm
  · rename_i hlocate _
    split at hfind
    · exact .inl ⟨(Except.ok.inj hfind).symm, hmissing hlocate⟩
    · simp at hfind
  · rename_i hlocate _
    exact .inl ⟨(Except.ok.inj hfind).symm, hmissing hlocate⟩
  · rename_i first more base hrelative hlocate
    split at hfind
    · rename_i hnot
      refine .inl ⟨(Except.ok.inj hfind).symm, fun base' components hbased => ?_⟩
      obtain rfl := Except.ok.inj (hbased.located.symm.trans hlocate)
      simp [FileTree.isDirectory, hbased.isDirectory] at hnot
    · rename_i hdirectory
      split at hfind
      · simp at hfind
      · split at hfind
        · simp at hfind
        · rename_i components hread
          split at hfind
          · simp at hfind
          · rename_i found hselect
            refine .inr ⟨base, components, found, ⟨hlocate, ?_, ?_⟩, hselect,
              (Except.ok.inj hfind).symm⟩
            · simpa [FileTree.isDirectory] using hdirectory
            · rw [hrelative]
              exact hread

theorem isSome_file?_of_mem_find {files : List Location} (hfind : find t directory pattern = .ok files)
    (hl : l ∈ files) : (t.file? l).isSome := by
  rcases find_eq_ok hfind with ⟨rfl, -⟩ | ⟨-, -, found, -, -, rfl⟩
  · simp at hl
  · rw [List.mem_mergeSort, List.mem_filter] at hl
    exact hl.2

/-- What a search in a well-formed tree lists has a name that files can have. -/
theorem isResolved_of_mem_find (h : t.WellFormed) {files : List Location}
    (hfind : find t directory pattern = .ok files) (hl : l ∈ files) : l.IsResolved ∧ l ≠ [] := by
  obtain ⟨bytes, hnode⟩ := FileTree.isSome_file?_iff.1 (isSome_file?_of_mem_find hfind hl)
  refine ⟨h.isResolved (by rw [hnode]; rfl), ?_⟩
  rintro rfl
  exact absurd hnode (by simp [FileTree.node?])

end Pattern

end BlazorBridge

import BlazorBridge.Proofs.Generation.Isolation
import BlazorBridge.Proofs.Pattern.Matches

/-!
# What generating overwrites

Any file that a pattern matches is taken for a source, whatever its suffix. Generating it puts its
wrapper beside it, or changes nothing (`generateFile_cases`). The wrapper stands in the place of the file
itself if that has the suffix of a wrapper already. So after a run every place holds what it held, or the
wrapper of one of the files (`Overwritten`), and a matching file is safe exactly because of its suffix.

Main statement (`generateAll_overwrites`): generating everything that matches changes only places with
the suffix of a wrapper, so no matching file with another suffix. A matching file that has it holds a
wrapper afterwards, if it is text. What stood in such a file is lost (`matching_file_overwritten`).
-/

namespace BlazorBridge.Generation

open FileTree (WellFormed)
open Pattern

variable {options : Options} {directory : Option Path} {pattern : Text} {t u v : FileTree}
  {l k : Location} {files : List Location} {text : Text}

/-! ## One file -/

/-- Writing at a resolved location puts the text there, or changes nothing. -/
theorem writeOutput_cases (hk : k.IsResolved) (code : Text) :
    (t.Reaches k ∧ t.node? k ≠ some .directory ∧
      writeOutput t k.toPath code = .ok (t.put k (.file (Utf8.encode code)))) ∨
    ¬ (t.Reaches k ∧ t.node? k ≠ some .directory) ∧
      ∃ cause, writeOutput t k.toPath code = .error (.unwritable k.toPath cause) := by
  unfold writeOutput
  rw [hk.hasNull, if_neg (by simp)]
  cases hwrite : t.write k.toPath (Utf8.encode code) with
  | ok written =>
    obtain ⟨hreach, hfree, rfl⟩ := (FileTree.write_toPath_eq_ok_iff hk).1 hwrite
    exact .inl ⟨hreach, hfree, rfl⟩
  | error cause =>
    refine .inr ⟨fun ⟨hreach, hfree⟩ => ?_, cause, rfl⟩
    rw [(FileTree.write_toPath_eq_ok_iff hk).2 ⟨hreach, hfree, rfl⟩] at hwrite
    exact absurd hwrite (by simp)

/-- Generating a file puts its wrapper in its place, if the file is text and the place can be written.
Otherwise it fails, and nothing changes. -/
theorem generateFile_cases (hcs : options.outputSuffix = ".cs".toList) (hl : l.IsResolved)
    (hne : l ≠ []) :
    (∃ text, readSource t l.toPath = .ok text ∧ t.node? l.wrapper ≠ some .directory ∧
      (generateFile options t l.toPath).outcome = .ok l.wrapper.toPath ∧
      (generateFile options t l.toPath).tree =
        t.put l.wrapper (.file (wrapperBytes options l text))) ∨
    (∀ text, readSource t l.toPath = .ok text →
        ¬ (t.Reaches l.wrapper ∧ t.node? l.wrapper ≠ some .directory)) ∧
      (∃ fault, (generateFile options t l.toPath).outcome = .error fault ∧ fault.ofOneFile = true) ∧
      (generateFile options t l.toPath).tree = t := by
  unfold generateFile
  cases hread : readSource t l.toPath with
  | error fault => exact .inr ⟨by simp, ⟨fault, rfl, ofOneFile_of_readSource hl hread⟩, rfl⟩
  | ok text =>
    simp only [outputPath_eq hcs hl hne]
    rcases writeOutput_cases (t := t) (hl.wrapper hne)
        (Wrapper.render options (Extraction.moduleOf l.toPath.toText (Extraction.outcomes text))) with
      ⟨-, hfree, hwrite⟩ | ⟨hnot, cause, hwrite⟩
    · simp only [hwrite]
      exact .inl ⟨text, rfl, hfree, rfl, rfl⟩
    · simp only [hwrite]
      exact .inr ⟨fun _ _ => hnot, ⟨_, rfl, rfl⟩, rfl⟩

/-- A run goes on behind a file from the tree that this leaves, and counts it if it fails. -/
theorem generateFiles_cons (hcs : options.outputSuffix = ".cs".toList) (hl : l.IsResolved)
    (hne : l ≠ []) (rest : List Path) :
    (generateFiles options t (l.toPath :: rest)).tree =
        (generateFiles options (generateFile options t l.toPath).tree rest).tree ∧
      ∃ failures,
        (failures = 0 ↔ ∃ output, (generateFile options t l.toPath).outcome = .ok output) ∧
        (generateFiles options t (l.toPath :: rest)).outcome =
          (generateFiles options (generateFile options t l.toPath).tree rest).outcome.map
            (· + failures) := by
  rw [generateFiles]
  rcases generateFile_cases (t := t) hcs hl hne with
    ⟨-, -, -, hok, -⟩ | ⟨-, ⟨fault, hfault, hone⟩, -⟩
  · simp only [hok, Run.after, true_and]
    refine ⟨0, by simp, ?_⟩
    cases (generateFiles options (generateFile options t l.toPath).tree rest).outcome <;> rfl
  · simp only [hfault, hone, if_true, true_and]
    exact ⟨1, by simp, rfl⟩

/-! ## Many files -/

/-- Whether a place holds the wrapper of one of the files. -/
def HoldsWrapper (options : Options) (files : List Location) (t : FileTree) (k : Location) : Prop :=
  ∃ l ∈ files, l.wrapper = k ∧ ∃ text, t.node? k = some (.file (wrapperBytes options l text))

/-- What generating files leaves of a tree: every place holds what it held, or the wrapper of one of the
files, and no directory comes or goes. -/
structure Overwritten (options : Options) (files : List Location) (t u : FileTree) : Prop where
  directories : ∀ k, u.node? k = some .directory ↔ t.node? k = some .directory
  held : ∀ k, u.node? k = t.node? k ∨ HoldsWrapper options files u k

theorem HoldsWrapper.mono {others : List Location} (h : HoldsWrapper options files t k)
    (hsub : files ⊆ others) : HoldsWrapper options others t k := by
  obtain ⟨l, hl, hk⟩ := h
  exact ⟨l, hsub hl, hk⟩

/-- A wrapper is overwritten by wrappers only. -/
theorem HoldsWrapper.of_overwritten (h : HoldsWrapper options files t k)
    (hu : Overwritten options files t u) : HoldsWrapper options files u k := by
  rcases hu.held k with heq | hholds
  · obtain ⟨l, hl, hk, text, hnode⟩ := h
    exact ⟨l, hl, hk, text, heq.trans hnode⟩
  · exact hholds

theorem Overwritten.refl (options : Options) (files : List Location) (t : FileTree) :
    Overwritten options files t t := ⟨fun _ => Iff.rfl, fun _ => .inl rfl⟩

theorem Overwritten.mono {others : List Location} (h : Overwritten options files t u)
    (hsub : files ⊆ others) : Overwritten options others t u :=
  ⟨h.directories, fun k => (h.held k).imp_right fun hk => hk.mono hsub⟩

theorem Overwritten.trans (h : Overwritten options files t u) (h' : Overwritten options files u v) :
    Overwritten options files t v := by
  refine ⟨fun k => (h'.directories k).trans (h.directories k), fun k => ?_⟩
  rcases h.held k with heq | hholds
  · exact (h'.held k).imp_left fun heq' => heq'.trans heq
  · exact .inr (hholds.of_overwritten h')

theorem holdsWrapper_put (hl : l ∈ files) (text : Text) :
    HoldsWrapper options files (t.put l.wrapper (.file (wrapperBytes options l text))) l.wrapper :=
  ⟨l, hl, rfl, text, FileTree.node?_put_self (wrapper_ne_nil l)⟩

theorem overwritten_put (hl : l ∈ files) (hfree : t.node? l.wrapper ≠ some .directory)
    (text : Text) :
    Overwritten options files t (t.put l.wrapper (.file (wrapperBytes options l text))) := by
  refine ⟨fun k => ?_, fun k => ?_⟩
  · by_cases hk : k = l.wrapper
    · rw [hk, FileTree.node?_put_self (wrapper_ne_nil l)]
      simp [hfree]
    · rw [FileTree.node?_put_of_ne hk]
  · by_cases hk : k = l.wrapper
    · rw [hk]
      exact .inr (holdsWrapper_put hl text)
    · exact .inl (FileTree.node?_put_of_ne hk)

/-- A file whose bytes have not changed is read as before. -/
theorem Overwritten.readSource_eq (h : Overwritten options files t u) (hl : l.IsResolved)
    (hnode : u.node? l = t.node? l) (hread : readSource t l.toPath = .ok text) :
    readSource u l.toPath = .ok text := by
  obtain ⟨hreach, hrest⟩ := (readSource_eq_ok_iff hl).1 hread
  rw [readSource_eq_ok_iff hl, hnode]
  exact ⟨hreach.congr fun k => (h.directories k).2, hrest⟩

/-- Generating a file overwrites at most its wrapper, and a file that is text and its own wrapper holds a
wrapper afterwards. -/
theorem overwritten_generateFile (hcs : options.outputSuffix = ".cs".toList) (hl : l.IsResolved)
    (hne : l ≠ []) (hmem : l ∈ files) :
    Overwritten options files t (generateFile options t l.toPath).tree ∧
      (l.wrapper = l → ∀ text, readSource t l.toPath = .ok text →
        HoldsWrapper options files (generateFile options t l.toPath).tree l) := by
  rcases generateFile_cases (t := t) hcs hl hne with
    ⟨text, -, hfree, -, htree⟩ | ⟨hnot, -, htree⟩
  · rw [htree]
    refine ⟨overwritten_put hmem hfree text, fun hself _ _ => ?_⟩
    have hholds : HoldsWrapper options files
        (t.put l.wrapper (.file (wrapperBytes options l text))) l.wrapper :=
      holdsWrapper_put hmem text
    rwa [hself] at hholds ⊢
  · rw [htree]
    refine ⟨.refl options files t, fun hself text hread => ?_⟩
    -- A file that can be read can be written over.
    obtain ⟨hreach, bytes, raw, hnode, -⟩ := (readSource_eq_ok_iff hl).1 hread
    refine absurd ⟨?_, ?_⟩ (hnot text hread)
    · rwa [hself]
    · rw [hself, hnode]
      simp

/-- A run over files raises no fault. It overwrites at most their wrappers, and the files that are text
and their own wrappers hold wrappers afterwards. -/
theorem overwritten_generateFiles (hcs : options.outputSuffix = ".cs".toList)
    (hl : ∀ l ∈ files, l.IsResolved ∧ l ≠ []) (t : FileTree) :
    (∃ failures, (generateFiles options t (files.map Location.toPath)).outcome = .ok failures) ∧
      Overwritten options files t (generateFiles options t (files.map Location.toPath)).tree ∧
      ∀ l ∈ files, l.wrapper = l → ∀ text, readSource t l.toPath = .ok text →
        HoldsWrapper options files (generateFiles options t (files.map Location.toPath)).tree l := by
  induction files generalizing t with
  | nil => exact ⟨⟨0, rfl⟩, .refl options [] t, by simp⟩
  | cons first rest ih =>
    obtain ⟨hfirst, hne⟩ := hl first (by simp)
    obtain ⟨hover, hself⟩ := overwritten_generateFile (t := t) hcs hfirst hne
      (List.mem_cons_self (a := first) (l := rest))
    obtain ⟨⟨failures, houtcome⟩, hrest, hheld⟩ :=
      ih (fun l hl' => hl l (by simp [hl'])) (generateFile options t first.toPath).tree
    have hsub : rest ⊆ first :: rest := List.subset_cons_self first rest
    obtain ⟨htree, count, -, hcount⟩ :=
      generateFiles_cons (t := t) hcs hfirst hne (rest.map Location.toPath)
    rw [List.map_cons, htree]
    rw [houtcome] at hcount
    refine ⟨⟨_, hcount⟩, hover.trans (hrest.mono hsub), fun l hmem hwrapper text hread => ?_⟩
    by_cases hin : HoldsWrapper options (first :: rest) (generateFile options t first.toPath).tree l
    · exact hin.of_overwritten (hrest.mono hsub)
    · -- Nothing was written there yet, so the file has its turn in the rest of the run.
      have hnode := (hover.held l).resolve_right hin
      rcases List.mem_cons.1 hmem with rfl | hmem
      · exact absurd (hself hwrapper text hread) hin
      · have hread' := hover.readSource_eq (hl l (by simp [hmem])).1 hnode hread
        exact (hheld l hmem hwrapper text hread').mono hsub

/-! ## Everything that matches -/

/-- Generating everything that matches is a run over the files that are found. -/
theorem generateAll_of_find (hfind : find t directory pattern = .ok files) {failures : Nat}
    (h : (generateFiles options t (files.map Location.toPath)).outcome = .ok failures) :
    (generateAll options directory pattern t).tree =
        (generateFiles options t (files.map Location.toPath)).tree ∧
      (generateAll options directory pattern t).outcome = .ok failures := by
  unfold generateAll
  rw [hfind]
  cases files with
  | nil =>
    obtain rfl : 0 = failures := Except.ok.inj h
    exact ⟨rfl, rfl⟩
  | cons first more =>
    exact Run.andThen_of_ok (r := Run.after [.starting _] _) h

/-- **What generating everything overwrites.** If the search for a pattern does not break off, generating
everything that matches raises no fault. Every place that changes has the suffix of a wrapper, and holds
the wrapper of a matching file afterwards; so a matching file with another suffix is as it was. A matching
file with that suffix holds a wrapper afterwards, if it is text. If no matching file has that suffix,
nothing is written to a file that matches. -/
theorem generateAll_overwrites (hcs : options.outputSuffix = ".cs".toList) (ht : t.WellFormed)
    (hfind : find t directory pattern = .ok files) :
    (∃ failures, (generateAll options directory pattern t).outcome = .ok failures) ∧
      (∀ k, (generateAll options directory pattern t).tree.node? k ≠ t.node? k →
        k.toPath.suffix = ".cs".toList ∧
          HoldsWrapper options files (generateAll options directory pattern t).tree k) ∧
      (∀ l ∈ files, l.toPath.suffix ≠ ".cs".toList →
        (generateAll options directory pattern t).tree.node? l = t.node? l) ∧
      (∀ l ∈ files, l.toPath.suffix = ".cs".toList → ∀ text, readSource t l.toPath = .ok text →
        HoldsWrapper options files (generateAll options directory pattern t).tree l) ∧
      ((∀ l ∈ files, l.toPath.suffix ≠ ".cs".toList) → ∀ k,
        (generateAll options directory pattern t).tree.node? k ≠ t.node? k → k ∉ files) := by
  have hl (l : Location) (hmem : l ∈ files) := isResolved_of_mem_find ht hfind hmem
  obtain ⟨⟨failures, houtcome⟩, hover, hself⟩ := overwritten_generateFiles hcs hl t
  obtain ⟨htree, hall⟩ := generateAll_of_find hfind houtcome
  rw [← htree] at hover hself
  have hchanged (k : Location) (hk : (generateAll options directory pattern t).tree.node? k ≠ t.node? k) :
      k.toPath.suffix = ".cs".toList ∧
        HoldsWrapper options files (generateAll options directory pattern t).tree k := by
    have hholds := (hover.held k).resolve_left hk
    refine ⟨?_, hholds⟩
    obtain ⟨l, hmem, rfl, -⟩ := hholds
    exact (hl l hmem).1.suffix_wrapper (hl l hmem).2
  refine ⟨⟨failures, hall⟩, hchanged, ?_, ?_, ?_⟩
  · intro l _ hsuffix
    by_contra hk
    exact hsuffix (hchanged l hk).1
  · intro l hmem hsuffix
    exact hself l hmem (((hl l hmem).1.wrapper_eq_self_iff (hl l hmem).2).2 hsuffix)
  · intro hnone k hk hmem
    exact hnone k hmem (hchanged k hk).1

/-- A tree with a source, and beside it a text with the suffix of a wrapper. -/
def mixed : FileTree where
  here := ["w".toList]
  entries :=
    [(["w".toList], .directory),
     (["w".toList, "site.js".toList], .file []),
     (["w".toList, "util.cs".toList], .file (Utf8.encode "class Util \x7b\x7d\n".toList))]

theorem find_mixed :
    find mixed none "*".toList =
      .ok [["w".toList, "site.js".toList], ["w".toList, "util.cs".toList]] := by
  have hsorted : [["w".toList, "site.js".toList], ["w".toList, "util.cs".toList]].Pairwise
      fun l k => Location.le l k := by decide
  rw [← List.mergeSort_of_pairwise hsorted]
  rfl

theorem generateAll_overwrites_mixed :
    (generateAll .standard none "*".toList mixed).tree.node? ["w".toList, "site.js".toList] =
        some (.file []) ∧
      HoldsWrapper .standard [["w".toList, "site.js".toList], ["w".toList, "util.cs".toList]]
        (generateAll .standard none "*".toList mixed).tree ["w".toList, "util.cs".toList] := by
  obtain ⟨-, -, hkept, hlost, -⟩ :=
    @generateAll_overwrites .standard none "*".toList mixed _ rfl (by decide) find_mixed
  have hread : readSource mixed (Location.toPath ["w".toList, "util.cs".toList]) =
      .ok "class Util \x7b\x7d\n".toList := by
    decide +kernel
  exact ⟨hkept _ (by simp) (by decide), hlost _ (by simp) (by decide) _ hread⟩

/-- Files that match are not safe from generation: one with the suffix of a wrapper is overwritten with
its own. -/
theorem matching_file_overwritten :
    ¬ ∀ (options : Options) (directory : Option Path) (pattern : Text) (t : FileTree)
      (files : List Location), options.outputSuffix = ".cs".toList → t.WellFormed →
      find t directory pattern = .ok files →
      ∀ l ∈ files, (generateAll options directory pattern t).tree.node? l = t.node? l := by
  intro hclaim
  have hsame := hclaim .standard none "*".toList mixed _ rfl (by decide) find_mixed
    ["w".toList, "util.cs".toList] (by simp)
  unfold generateAll at hsame
  rw [find_mixed] at hsame
  exact absurd hsame (by decide +kernel)

end BlazorBridge.Generation

import BlazorBridge.Proofs.FileTree.Lookup
import BlazorBridge.Proofs.Pattern.Matches

/-!
# Patterns without wildcards

A pattern without wildcards is split into the directory that its path names and one name to ask for there
(`split_of_plain`). So two paths are looked up, one after the other. The search lists the place that the
whole path leads to if this is a file, breaks off where a path is refused as too long (`BreaksOff`), and
lists nothing otherwise (`searched_find`).

Main statement (`patterns_spelled`): what splitting a pattern keeps, that a directory may be given apart
or spelled out, and what a search without wildcards comes to. Where the parts of a path point does not
settle this (`plain_search_may_differ`).
-/

namespace BlazorBridge.Pattern

open Component (isWild)

variable {t : FileTree} {directory : Path} {pattern : Text} {p : Path} {d l : Location}

/-! ## The search -/

/-- A part without wildcards is asked for by name. -/
theorem ofText?_of_plain {part : Text} (h : isWild part = false) :
    Component.ofText? part = some (.exactly part) := by
  have hstar : '*' ∉ part := by
    intro hmem
    rw [isWild, List.any_eq_false] at h
    exact h '*' hmem (by decide)
  have hboth : Text.has ['*', '*'] part = false := by
    rw [Text.has, Text.fromLast_eq_none_iff.2 fun hmark => hstar (hmark.subset (by simp))]
    rfl
  unfold Component.ofText?
  rw [if_neg (by rintro rfl; simp at hstar), hboth, if_neg (by simp), h, if_neg (by simp)]

/-- A pattern without wildcards is split into the directory of its path and a name. -/
theorem split_of_plain (hplain : isWild pattern = false) (hparts : (Path.ofText pattern).parts ≠ []) :
    split directory pattern =
      ⟨(directory.join (Path.ofText pattern)).parent, [(Path.ofText pattern).name]⟩ := by
  rw [split_eq (.inl hparts),
    cutComponents_of_plain ((Component.any_isWild_parts pattern).trans hplain)]
  generalize Path.ofText pattern = q at hparts ⊢
  obtain ⟨anchor, parts⟩ := q
  obtain ⟨front, last, rfl⟩ := (List.eq_nil_or_concat parts).resolve_left hparts
  cases anchor <;> simp [Path.join, Path.parent, Path.name, ← List.append_assoc]

/-- Asking for the name of a path in its directory. -/
theorem select_name (hparts : p.parts ≠ []) (t : FileTree) (d : Location) :
    select t p.parent [.exactly p.name] [] d =
      if Char.ofNat 0 ∈ p.name then .ok []
      else if FileTree.isOverlong p.name || FileTree.isBeyondReach p then .error p
      else .ok (if (t.node? (Location.step d p.name)).isSome then
        [([p.name], Location.step d p.name)] else []) := by
  have hjoin := Path.parent_join_name hparts
  simp only [select, reachName, reach, List.nil_append, hjoin, List.contains_eq_mem,
    decide_eq_true_eq, List.isEmpty_nil, if_true, Bool.or_eq_true]
  by_cases hnull : Char.ofNat 0 ∈ p.name
  · rw [if_pos hnull, if_pos hnull]
  · rw [if_neg hnull, if_neg hnull]
    cases FileTree.isOverlong p.name <;> cases FileTree.isBeyondReach p <;>
      cases (t.node? (Location.step d p.name)).isSome <;> rfl

/-- What is listed of what was selected: the files among it, in order. -/
def listing (t : FileTree) (selected : Except Path (List (List Text × Location))) :
    Except Fault (List Location) :=
  match selected with
  | .error path => .error (.unsearchable path .nameTooLong)
  | .ok found => .ok (((found.map Prod.snd).filter fun l => (t.file? l).isSome).mergeSort Location.le)

/-- A pattern without wildcards is looked for in the directory of its path. -/
theorem find_of_plain (hplain : isWild pattern = false) (hparts : (Path.ofText pattern).parts ≠ [])
    (t : FileTree) {directory : Option Path}
    (hp : (directory.getD t.here.toPath).join (Path.ofText pattern) = p) :
    find t directory pattern =
      match t.locate p.parent with
      | .error .nameTooLong =>
        if p.parent.hasNull then .ok [] else .error (.unsearchable p.parent .nameTooLong)
      | .error _ => .ok []
      | .ok d =>
        if t.isDirectory d then listing t (select t p.parent [.exactly p.name] [] d) else .ok [] := by
  have hmem := Path.name_mem_parts hparts
  have hslash : (Path.ofText pattern).name.contains '/' = false := by
    simpa using (Path.isPlain_ofText pattern _ hmem).noSlash
  have hwild : isWild (Path.ofText pattern).name = false := by
    have hall := (Component.any_isWild_parts pattern).trans hplain
    rw [List.any_eq_false] at hall
    simpa using hall _ hmem
  have hname : (Path.ofText pattern).name = p.name := by
    rw [← hp, Path.name_join hparts]
  unfold find
  simp only [split_of_plain hplain hparts, hp]
  cases t.locate p.parent with
  | error cause => cases cause <;> rfl
  | ok d =>
    have hread : [(Path.ofText pattern).name].mapM Component.ofText? = some [.exactly p.name] := by
      rw [List.mapM_cons, ofText?_of_plain hwild, hname]
      rfl
    simp only [hslash, hread, Bool.false_eq_true, if_false]
    cases t.isDirectory d <;> rfl

/-- Whether a path cannot be looked up because it, or a name on its way, is too long. A path with a null
character is not looked up at all. -/
def Refuses (t : FileTree) (p : Path) : Prop :=
  t.locate p = .error .nameTooLong ∧ p.hasNull = false

/-- Whether a search for a path breaks off: its directory cannot be looked up, or it is there and the
path in it cannot. -/
def BreaksOff (t : FileTree) (p : Path) : Prop :=
  Refuses t p.parent ∨ (∃ d, t.locate p.parent = .ok d ∧ t.node? d = some .directory) ∧ Refuses t p

/-- Whether a path leads to a file. -/
def LeadsToFile (t : FileTree) (p : Path) (l : Location) : Prop :=
  t.locate p = .ok l ∧ (t.file? l).isSome

/-- Where the directory of a path is there, a search for it breaks off if the name or the path is too
long. -/
theorem breaksOff_of_directory (ht : t.WellFormed) (hparts : p.parts ≠ [])
    (hparent : t.locate p.parent = .ok d) (hd : t.node? d = some .directory) :
    BreaksOff t p ↔ Char.ofNat 0 ∉ p.name ∧
      (FileTree.isOverlong p.name || FileTree.isBeyondReach p) = true := by
  have hfront := ht.hasNull_of_locate hparent (by rw [hd]; rfl)
  have hfound : ¬ Refuses t p.parent := by
    rintro ⟨hrefused, -⟩
    rw [hparent] at hrefused
    exact absurd hrefused (by simp)
  rw [BreaksOff, or_iff_right hfound, and_iff_right ⟨d, hparent, hd⟩, Refuses,
    FileTree.locate_of_directory hparts hparent hd, Path.hasNull_eq hparts, hfront, and_comm]
  cases FileTree.isOverlong p.name || FileTree.isBeyondReach p <;> simp

/-- What a search for a path comes to: the file that the path leads to, a fault if it breaks off, and
otherwise nothing. -/
inductive Searched (t : FileTree) (p : Path) : Except Fault (List Location) → Prop
  | file {l : Location} (hfile : LeadsToFile t p l) : Searched t p (.ok [l])
  | broken (path : Path) (hbreaks : BreaksOff t p) :
      Searched t p (.error (.unsearchable path .nameTooLong))
  | nothing (hnone : ∀ l, ¬ LeadsToFile t p l) (hbreaks : ¬ BreaksOff t p) : Searched t p (.ok [])

/-- Where the directory of a path is there, its name is asked for in it. -/
theorem searched_of_directory (ht : t.WellFormed) (hparts : p.parts ≠ [])
    (hparent : t.locate p.parent = .ok d) (hd : t.node? d = some .directory) :
    Searched t p (listing t (select t p.parent [.exactly p.name] [] d)) := by
  have hlocate := FileTree.locate_of_directory hparts hparent hd
  have hbreaks := breaksOff_of_directory ht hparts hparent hd
  rw [select_name hparts]
  by_cases hnull : Char.ofNat 0 ∈ p.name
  · -- No file has a null character in its path.
    have hnone (l : Location) (hl : LeadsToFile t p l) : False := by
      have hwhole := ht.hasNull_of_locate hl.1 (FileTree.isSome_node?_of_isSome_file? hl.2)
      rw [Path.hasNull_eq hparts] at hwhole
      simp [hnull] at hwhole
    have hnothing : Searched t p (.ok []) := .nothing hnone fun h => (hbreaks.1 h).1 hnull
    simpa [listing, hnull] using hnothing
  · rw [if_neg hnull]
    by_cases hlong : (FileTree.isOverlong p.name || FileTree.isBeyondReach p) = true
    · rw [if_pos hlong]
      exact .broken p (hbreaks.2 ⟨hnull, hlong⟩)
    · rw [if_neg hlong] at hlocate ⊢
      cases hfile : (t.file? (Location.step d p.name)).isSome with
      | true =>
        have hnode := FileTree.isSome_node?_of_isSome_file? hfile
        simpa [listing, hnode, hfile] using Searched.file ⟨hlocate, hfile⟩
      | false =>
        have hnone (l : Location) (hl : LeadsToFile t p l) : False := by
          obtain rfl := Except.ok.inj (hl.1.symm.trans hlocate)
          simpa [hfile] using hl.2
        have hnothing : Searched t p (.ok []) := .nothing hnone fun h => hlong (hbreaks.1 h).2
        cases hnode : (t.node? (Location.step d p.name)).isSome <;>
          simpa [listing, hnode, hfile] using hnothing

/-- **A search without wildcards.** It lists the file that the path of the pattern leads to. If there is
none, it breaks off or lists nothing. -/
theorem searched_find (ht : t.WellFormed) (hplain : isWild pattern = false)
    (hparts : (Path.ofText pattern).parts ≠ []) {directory : Option Path}
    (hp : (directory.getD t.here.toPath).join (Path.ofText pattern) = p) :
    Searched t p (find t directory pattern) := by
  have hne : p.parts ≠ [] := hp ▸ Path.parts_join_ne_nil hparts _
  rw [find_of_plain hplain hparts t hp]
  -- Without its directory there, a path leads nowhere.
  have hnone (hnot : ¬ ∃ d, t.locate p.parent = .ok d ∧ t.node? d = some .directory) (l : Location)
      (hl : LeadsToFile t p l) : False := hnot (FileTree.directory_of_locate hne hl.1)
  cases hparent : t.locate p.parent with
  | error cause =>
    have hnot : ¬ ∃ d, t.locate p.parent = .ok d ∧ t.node? d = some .directory := by simp [hparent]
    have hnothing (h : ¬ Refuses t p.parent) : Searched t p (.ok []) :=
      .nothing (hnone hnot) fun hbreaks => hbreaks.elim h fun hrefuses => hnot hrefuses.1
    cases cause with
    | nameTooLong =>
      cases hnull : p.parent.hasNull with
      | true => simpa [hnull] using hnothing fun h => absurd (hnull.symm.trans h.2) (by simp)
      | false => simpa [hnull] using Searched.broken p.parent (.inl ⟨hparent, hnull⟩)
    | missing => exact hnothing fun h => absurd (hparent.symm.trans h.1) (by simp)
    | notDirectory => exact hnothing fun h => absurd (hparent.symm.trans h.1) (by simp)
    | isDirectory => exact hnothing fun h => absurd (hparent.symm.trans h.1) (by simp)
  | ok d =>
    by_cases hd : t.node? d = some .directory
    · simpa [FileTree.isDirectory, hd] using searched_of_directory ht hne hparent hd
    · have hnot : ¬ ∃ d, t.locate p.parent = .ok d ∧ t.node? d = some .directory := by
        simp [hparent, hd]
      have hnothing : Searched t p (.ok []) := by
        refine .nothing (hnone hnot) ?_
        rintro (⟨hrefused, -⟩ | ⟨hdirectory, -⟩)
        · exact absurd (hparent.symm.trans hrefused) (by simp)
        · exact hnot hdirectory
      simpa [FileTree.isDirectory, hd] using hnothing

/-- A path that leads to a file can be looked up, and so can its directory. -/
theorem LeadsToFile.not_breaksOff (h : LeadsToFile t p l) (hparts : p.parts ≠ []) :
    ¬ BreaksOff t p := by
  obtain ⟨d, hparent, -⟩ := FileTree.directory_of_locate hparts h.1
  rintro (⟨hrefused, -⟩ | ⟨-, hrefused, -⟩)
  · exact absurd (hparent.symm.trans hrefused) (by simp)
  · exact absurd (h.1.symm.trans hrefused) (by simp)

/-! ## Patterns and how they are spelled -/

/-- **Patterns and how they are spelled.** Splitting a pattern loses nothing, whatever directory it is
searched from. If the pattern is more than a root, a search from a directory with an anchor and without
wildcards is the search for the pattern with this directory spelled out in front. Without wildcards it
lists the place where the path of the pattern leads, if this is a file. If it is none, nothing is listed,
unless the search breaks off. -/
theorem patterns_spelled (pattern : Text) :
    (∀ directory : Path, (split directory pattern).Faithful directory pattern) ∧
    ((Path.ofText pattern).parts ≠ [] → ∀ d : Text, (Path.ofText d).anchor ≠ .relative →
      (∀ part ∈ (Path.ofText d).parts, isWild part = false) → ∀ (t : FileTree) (other : Option Path),
      find t other ((Path.ofText d).join (Path.ofText pattern)).toText =
        find t (some (Path.ofText d)) pattern) ∧
    ((Path.ofText pattern).parts ≠ [] → isWild pattern = false →
      ∀ (t : FileTree) (directory : Option Path) (p : Path), t.WellFormed →
      (directory.getD t.here.toPath).join (Path.ofText pattern) = p →
      (∀ l, LeadsToFile t p l →
        l = Location.follow t.here p ∧ find t directory pattern = .ok [l]) ∧
      ((∀ l, ¬ LeadsToFile t p l) → ¬ BreaksOff t p → find t directory pattern = .ok []) ∧
      (BreaksOff t p →
        ∃ path, find t directory pattern = .error (.unsearchable path .nameTooLong))) := by
  refine ⟨fun directory => faithful_split directory pattern, fun hparts d hanchor hd t other =>
    find_spelled_out t hanchor hd hparts other, fun hparts hplain t directory p ht hp => ?_⟩
  have hne : p.parts ≠ [] := hp ▸ Path.parts_join_ne_nil hparts _
  have hsearched := searched_find ht hplain hparts hp
  generalize find t directory pattern = outcome at hsearched ⊢
  cases hsearched with
  | @file l hfile =>
    refine ⟨fun k hk => ?_, fun hnone => absurd hfile (hnone l), fun hbreaks => ?_⟩
    · obtain rfl := Except.ok.inj (hfile.1.symm.trans hk.1)
      exact ⟨(FileTree.follow_of_locate hk.1).symm, rfl⟩
    · exact absurd hbreaks (hfile.not_breaksOff hne)
  | broken path hbreaks =>
    exact ⟨fun l hl => absurd hbreaks (hl.not_breaksOff hne), fun _ h => absurd hbreaks h,
      fun _ => ⟨path, rfl⟩⟩
  | nothing hnone hbreaks =>
    exact ⟨fun l hl => absurd hl (hnone l), fun _ _ => rfl, fun h => absurd h hbreaks⟩

/-- A tree with one source, in a directory below the working directory. -/
def shelf : FileTree where
  here := ["w".toList]
  entries :=
    [(["w".toList], .directory),
     (["w".toList, "js".toList], .directory),
     (["w".toList, "js".toList, "site.js".toList], .file [])]

theorem patterns_spelled_shelf :
    (split ⟨.root, ["w".toList]⟩ "js/site.js".toList).Faithful ⟨.root, ["w".toList]⟩
        "js/site.js".toList ∧
      find shelf none "/w/js/site.js".toList =
        find shelf (some (Path.ofText "/w".toList)) "js/site.js".toList ∧
      find shelf (some (Path.ofText "/w".toList)) "js/site.js".toList =
        .ok [["w".toList, "js".toList, "site.js".toList]] := by
  obtain ⟨hsplit, hspelled, hplain⟩ := patterns_spelled "js/site.js".toList
  obtain ⟨hfile, -, -⟩ := hplain (by decide) (by decide) shelf (some (Path.ofText "/w".toList)) _
    (by decide) rfl
  exact ⟨hsplit _, hspelled (by decide) "/w".toList (by decide) (by decide) shelf none,
    (hfile _ ⟨by decide +kernel, by decide⟩).2⟩

/-- Without wildcards, what is listed does not follow from where the path points. A search breaks off at a
name that is too long, though no file has it. It lists nothing behind a directory that is not there,
though the path steps out of it again and points to a file. -/
theorem plain_search_may_differ :
    (¬ ∀ (t : FileTree) (pattern : Text), t.WellFormed → isWild pattern = false →
      (Path.ofText pattern).parts ≠ [] → ∃ files, find t none pattern = .ok files) ∧
    ¬ ∀ (t : FileTree) (pattern : Text) (files : List Location), t.WellFormed →
      isWild pattern = false → (Path.ofText pattern).parts ≠ [] → find t none pattern = .ok files →
      (t.file? (Location.follow t.here (t.here.toPath.join (Path.ofText pattern)))).isSome →
      files = [Location.follow t.here (t.here.toPath.join (Path.ofText pattern))] := by
  constructor
  · intro hclaim
    obtain ⟨files, hfind⟩ := hclaim shelf (List.replicate 256 'n') (by decide) (by decide +kernel)
      (by decide +kernel)
    have hbroken : find shelf none (List.replicate 256 'n') =
        .error (.unsearchable ⟨.root, ["w".toList, List.replicate 256 'n']⟩ .nameTooLong) := by
      decide +kernel
    rw [hbroken] at hfind
    cases hfind
  · intro hclaim
    have hnone : find shelf none "missing/../js/site.js".toList = .ok [] := by decide +kernel
    exact absurd (hclaim shelf _ [] (by decide) (by decide) (by decide) hnone (by decide)) (by simp)

end BlazorBridge.Pattern

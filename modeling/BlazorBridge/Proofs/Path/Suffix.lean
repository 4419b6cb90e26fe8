import BlazorBridge.Path
import BlazorBridge.Proofs.Text.Marks

/-!
# Suffixes of sources and wrappers

A name is its stem followed by its suffix (`Path.splitName_eq`). The wrapper of a source stands beside
it, with the same stem and another suffix. Two sources therefore never have the same wrapper
(`wrapper_inj`), and a wrapper is never a source (`not_isSource_wrapper`).
-/

namespace BlazorBridge

namespace Path

/-! ## Names -/

/-- A name is its stem and its suffix. A suffix leaves something of the name. -/
theorem splitName_eq (name : Text) :
    (splitName name).1 ++ (splitName name).2 = name ∧
      ((splitName name).2 ≠ [] → (splitName name).1 ≠ []) := by
  unfold splitName
  split
  · rename_i suffix hsuffix
    obtain ⟨front, rfl⟩ := (Text.fromLast_eq_some hsuffix).1
    split
    · rename_i hlength
      have htake : Text.dropEnd suffix.length (front ++ suffix) = front := by
        unfold Text.dropEnd
        rw [List.length_append, Nat.add_sub_cancel, List.take_left' rfl]
      simp only [htake, true_and]
      rintro - rfl
      simp at hlength
    · simp
  · simp

theorem splitName_fst_ne_nil {name : Text} (h : name ≠ []) : (splitName name).1 ≠ [] := by
  obtain ⟨heq, hstem⟩ := splitName_eq name
  intro hnil
  by_cases hsuffix : (splitName name).2 = []
  · rw [hnil, hsuffix] at heq
    exact h heq.symm
  · exact hstem hsuffix hnil

/-- A dot that neither begins nor ends a name, and behind which there is no other, is where the name is
split. -/
theorem splitName_append {stem ext : Text} (hstem : stem ≠ []) (hext : ext ≠ []) (hdot : '.' ∉ ext) :
    splitName (stem ++ '.' :: ext) = (stem, '.' :: ext) := by
  have hlast : Text.fromLast ['.'] (stem ++ '.' :: ext) = some ('.' :: ext) := by
    refine Text.fromLast_eq_some_iff.2 ⟨List.suffix_append _ _, ⟨ext, rfl⟩, fun s hs hmark => ?_⟩
    by_contra hlt
    -- A shorter part that ends the name would lie behind the dot.
    have hle : s.length ≤ ext.length := by
      rw [List.length_cons] at hlt
      omega
    have hsuffix : s <:+ ext := List.suffix_of_suffix_length_le hs
      ((List.suffix_cons _ _).trans (List.suffix_append _ _)) hle
    exact hdot (hsuffix.subset (hmark.subset (by simp)))
  have hpos := List.length_pos_iff.2 hstem
  have hpos' := List.length_pos_iff.2 hext
  unfold splitName
  rw [hlast]
  simp only [List.length_append, List.length_cons]
  rw [if_pos (by omega)]
  unfold Text.dropEnd
  rw [show (stem ++ '.' :: ext).length - (ext.length + 1) = stem.length by simp,
    List.take_left' rfl]

end Path

/-- A name that a file or directory can have: it is not empty, names neither the directory itself nor
its parent, and holds neither a slash nor the null character. -/
structure IsFileName (name : Text) : Prop where
  nonempty : name ≠ []
  notSelf : name ≠ Path.selfPart
  notParent : name ≠ Path.parentPart
  noSlash : '/' ∉ name
  noNull : Char.ofNat 0 ∉ name

instance (name : Text) : Decidable (IsFileName name) :=
  decidable_of_iff (name ≠ [] ∧ name ≠ Path.selfPart ∧ name ≠ Path.parentPart ∧ '/' ∉ name ∧
    Char.ofNat 0 ∉ name)
    ⟨fun ⟨h₁, h₂, h₃, h₄, h₅⟩ => ⟨h₁, h₂, h₃, h₄, h₅⟩, fun ⟨h₁, h₂, h₃, h₄, h₅⟩ => ⟨h₁, h₂, h₃, h₄, h₅⟩⟩

namespace Location

/-- A location that paths are resolved to: all its names are names of files or directories. -/
def IsResolved (l : Location) : Prop := ∀ name ∈ l, IsFileName name

/-- A location with the suffix of a source. -/
def IsSource (l : Location) : Prop := l.toPath.suffix = ".js".toList

/-- Where the wrapper of a source stands. -/
def wrapper (l : Location) : Location := l.dropLast ++ [l.toPath.stem ++ ".cs".toList]

instance (l : Location) : Decidable l.IsResolved :=
  inferInstanceAs (Decidable (∀ name ∈ l, IsFileName name))

instance (l : Location) : Decidable l.IsSource := inferInstanceAs (Decidable (_ = _))

/-! ## Sources and wrappers -/

theorem name_toPath_concat (directory : Location) (name : Text) :
    (toPath (directory ++ [name])).name = name := by
  simp [toPath, Path.name]

theorem suffix_toPath_concat (directory : Location) {stem ext : Text} (hstem : stem ≠ [])
    (hext : ext ≠ []) (hdot : '.' ∉ ext) :
    (toPath (directory ++ [stem ++ '.' :: ext])).suffix = '.' :: ext := by
  rw [Path.suffix, name_toPath_concat, Path.splitName_append hstem hext hdot]

/-- A source has a name with a stem, and its wrapper differs from it in the suffix alone. -/
theorem IsSource.exists_stem {l : Location} (h : l.IsSource) :
    ∃ directory stem, stem ≠ [] ∧ l = directory ++ [stem ++ ".js".toList] ∧
      l.wrapper = directory ++ [stem ++ ".cs".toList] := by
  unfold IsSource Path.suffix at h
  obtain ⟨hname, hstem⟩ := Path.splitName_eq l.toPath.name
  rw [h] at hname hstem
  rcases List.eq_nil_or_concat l with rfl | ⟨directory, name, rfl⟩
  · exact absurd h (by decide)
  · rw [List.concat_eq_append, name_toPath_concat] at *
    refine ⟨directory, (Path.splitName name).1, hstem (by decide), by rw [hname], ?_⟩
    rw [wrapper, List.dropLast_concat, Path.stem, name_toPath_concat]

/-- Whatever its suffix, a file has a name with a stem, and its wrapper differs from it in the suffix
alone. -/
theorem IsResolved.exists_stem {l : Location} (hl : l.IsResolved) (hne : l ≠ []) :
    ∃ directory stem ext, stem ≠ [] ∧ l.toPath.suffix = ext ∧ l = directory ++ [stem ++ ext] ∧
      l.wrapper = directory ++ [stem ++ ".cs".toList] := by
  obtain ⟨directory, name, rfl⟩ := (List.eq_nil_or_concat l).resolve_left hne
  rw [List.concat_eq_append] at hl ⊢
  refine ⟨directory, (Path.splitName name).1, (Path.splitName name).2,
    Path.splitName_fst_ne_nil (hl name (by simp)).nonempty, ?_, ?_, ?_⟩
  · rw [Path.suffix, name_toPath_concat]
  · rw [(Path.splitName_eq name).1]
  · rw [wrapper, List.dropLast_concat, Path.stem, name_toPath_concat]

/-- The wrapper of a file at a resolved location stands at a resolved location. -/
theorem IsResolved.wrapper {l : Location} (hl : l.IsResolved) (hne : l ≠ []) :
    l.wrapper.IsResolved := by
  obtain ⟨d, s, ext, hs, -, rfl, hw⟩ := hl.exists_stem hne
  have hne (t : Text) (ht : t.length ≤ 2) : s ++ ".cs".toList ≠ t := by
    rintro rfl
    simp at ht
  have hsource := hl (s ++ ext) (by simp)
  rw [hw]
  intro name hname
  rcases List.mem_append.1 hname with hname | hname
  · exact hl name (by simp [hname])
  · obtain rfl := List.mem_singleton.1 hname
    refine ⟨by simp, hne _ (by decide), hne _ (by decide), ?_, ?_⟩
    · exact List.not_mem_append (fun hmem => hsource.noSlash (by simp [hmem])) (by decide)
    · exact List.not_mem_append (fun hmem => hsource.noNull (by simp [hmem])) (by decide)

theorem IsResolved.suffix_wrapper {l : Location} (hl : l.IsResolved) (hne : l ≠ []) :
    l.wrapper.toPath.suffix = ".cs".toList := by
  obtain ⟨d, s, ext, hs, -, -, hw⟩ := hl.exists_stem hne
  rw [hw]
  exact suffix_toPath_concat d hs (by decide) (by decide)

/-- A file with the suffix of a wrapper is its own wrapper, and no other file is. -/
theorem IsResolved.wrapper_eq_self_iff {l : Location} (hl : l.IsResolved) (hne : l ≠ []) :
    l.wrapper = l ↔ l.toPath.suffix = ".cs".toList := by
  refine ⟨fun h => h ▸ hl.suffix_wrapper hne, fun h => ?_⟩
  obtain ⟨d, s, ext, -, hext, heq, hw⟩ := hl.exists_stem hne
  rw [hw, ← h, hext, ← heq]

theorem IsSource.ne_nil {l : Location} (h : l.IsSource) : l ≠ [] := by
  rintro rfl
  exact absurd h (by decide)

theorem IsResolved.hasNull {l : Location} (h : l.IsResolved) : l.toPath.hasNull = false := by
  rw [Path.hasNull, List.any_eq_false]
  intro name hname
  simpa using (h name hname).noNull

/-- The text of a location ends with its last name, and what stands in front of that name depends on
its directory alone. -/
theorem exists_toText_concat (directory : Location) :
    ∃ front, ∀ name, (toPath (directory ++ [name])).toText = front ++ name := by
  cases directory with
  | nil => exact ⟨['/'], fun name => by simp [toPath, Path.toText, Anchor.text, Text.join]⟩
  | cons first more =>
    refine ⟨'/' :: Text.join ['/'] (first :: more) ++ ['/'], fun name => ?_⟩
    unfold Path.toText
    rw [toPath, Text.join_append ['/'] (by simp) (by simp)]
    simp [Anchor.text, Text.join]

end Location

end BlazorBridge

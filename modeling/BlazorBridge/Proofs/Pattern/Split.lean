import BlazorBridge.Pattern
import BlazorBridge.Proofs.Path.Spelling
import Mathlib.Data.List.Infix

/-!
# How a pattern is split

The parts of a pattern are cut in front of the first wildcard, or in front of the last part
(`cutComponents`). What stands in front leads from the starting directory to the base (`split_eq`), so
the base followed by the components to search for is what the whole pattern leads to
(`faithful_split`).

Parts without wildcards may be put in front of a pattern without moving the cut
(`cutComponents_append_of_plain`). So it makes no difference whether a directory is given apart or spelled
out in front of the pattern (`find_spelled_out`).
-/

namespace BlazorBridge

namespace Component

/-- Neither slashes nor dots are wildcards, so a pattern has a wildcard exactly if one of its parts has. -/
theorem any_isWild_parts (t : Text) : (Path.ofText t).parts.any isWild = isWild t := by
  have hpieces := Text.join_split '/' t
  rw [Bool.eq_iff_iff, List.any_eq_true]
  unfold isWild
  constructor
  · rintro ⟨part, hpart, hwild⟩
    obtain ⟨c, hc, hglyph⟩ := List.any_eq_true.1 hwild
    have hinfix := Text.infix_join_of_mem ['/'] (List.mem_filter.1 hpart).1
    rw [hpieces] at hinfix
    exact List.any_eq_true.2 ⟨c, hinfix.subset hc, hglyph⟩
  · intro hwild
    obtain ⟨c, hc, hglyph⟩ := List.any_eq_true.1 hwild
    have hslash : c ≠ '/' := by
      rintro rfl
      simp at hglyph
    rw [← hpieces, ← List.singleton_infix_iff _ _,
      Text.infix_join_iff (by simp) (by simpa using hslash.symm)] at hc
    obtain ⟨piece, hpiece, hc⟩ := hc
    have hmem := (List.singleton_infix_iff _ _).1 hc
    refine ⟨piece, List.mem_filter.2 ⟨hpiece, ?_⟩, List.any_eq_true.2 ⟨c, hmem, hglyph⟩⟩
    have hself : piece ≠ Path.selfPart := by
      rintro rfl
      obtain rfl := List.mem_singleton.1 hmem
      simp at hglyph
    simp [List.ne_nil_of_mem hmem, hself]

theorem isWild_anchor (a : Anchor) : isWild a.text = false := by
  cases a <;> rfl

end Component

namespace Pattern

open Component (isWild)

variable {directory : Path} {pattern : Text} {xs ys : List Text}

/-! ## The cut -/

theorem cutComponents_append_eq (xs : List Text) :
    (cutComponents xs).1 ++ (cutComponents xs).2 = xs := by
  unfold cutComponents
  split
  · exact List.takeWhile_append_dropWhile
  · rw [List.dropLast_eq_take]
    exact List.take_append_drop _ _

theorem cutComponents_of_plain (h : xs.any isWild = false) :
    cutComponents xs = (xs.dropLast, xs.getLast?.toList) := by
  unfold cutComponents
  rw [h, if_neg (by simp)]
  rcases List.eq_nil_or_concat xs with rfl | ⟨front, last, rfl⟩
  · rfl
  · simp

/-- Nothing in front of the cut is a wildcard. -/
theorem plain_of_mem_cutComponents {part : Text} (h : part ∈ (cutComponents xs).1) :
    isWild part = false := by
  unfold cutComponents at h
  split at h
  · simpa using List.mem_takeWhile_imp h
  · rename_i hnone
    simp only [Bool.not_eq_true, List.any_eq_false] at hnone
    simpa using hnone part (List.dropLast_subset xs h)

/-- Behind the cut a wildcard comes first, if there is one. -/
theorem cutComponents_of_wild (h : xs.any isWild = true) :
    ∃ first more, (cutComponents xs).2 = first :: more ∧ isWild first = true := by
  unfold cutComponents
  rw [if_pos h]
  have hne : xs.dropWhile (!isWild ·) ≠ [] := by
    obtain ⟨part, hpart, hwild⟩ := List.any_eq_true.1 h
    rw [Ne, List.dropWhile_eq_nil_iff]
    intro hnone
    simpa [hwild] using hnone part hpart
  have hfirst := List.head_dropWhile_not (!isWild ·) hne
  exact ⟨_, _, (List.cons_head_tail hne).symm, by simpa using hfirst⟩

/-- Parts without wildcards in front of others do not move the cut. -/
theorem cutComponents_append_of_plain (h : xs.any isWild = false) (hne : ys ≠ []) :
    cutComponents (xs ++ ys) = (xs ++ (cutComponents ys).1, (cutComponents ys).2) := by
  have hplain : ∀ part ∈ xs, (!isWild part) = true := by
    simpa [List.any_eq_false] using h
  cases hys : ys.any isWild with
  | false =>
    have hall : (xs ++ ys).any isWild = false := by rw [List.any_append, h, hys, Bool.or_self]
    rw [cutComponents_of_plain hall, cutComponents_of_plain hys, List.dropLast_append_of_ne_nil hne,
      List.getLast?_append_of_ne_nil _ hne]
  | true =>
    have hsome : (xs ++ ys).any isWild = true := by rw [List.any_append, hys, Bool.or_true]
    unfold cutComponents
    rw [if_pos hsome, if_pos hys, List.takeWhile_append_of_pos hplain,
      List.dropWhile_append_of_pos hplain]

/-! ## The base and the rest -/

/-- What stands in front of the cut leads to the base. -/
theorem split_eq (h : (Path.ofText pattern).parts ≠ [] ∨ (Path.ofText pattern).anchor = .relative) :
    split directory pattern =
      ⟨directory.join ⟨(Path.ofText pattern).anchor, (cutComponents (Path.ofText pattern).parts).1⟩,
        (cutComponents (Path.ofText pattern).parts).2⟩ := by
  unfold split
  generalize Path.ofText pattern = p at h ⊢
  obtain ⟨anchor, parts⟩ := p
  have hcut (hanchor : anchor ≠ .relative) :
      cutComponents (anchor.text :: parts) =
        (anchor.text :: (cutComponents parts).1, (cutComponents parts).2) := by
    have hplain : [anchor.text].any isWild = false := by simp [Component.isWild_anchor]
    exact cutComponents_append_of_plain hplain (h.resolve_right hanchor)
  cases anchor with
  | relative => rfl
  | root =>
    have hcut := hcut (by simp)
    simp only [Path.components, hcut]
    rfl
  | doubleRoot =>
    have hcut := hcut (by simp)
    simp only [Path.components, hcut]
    rfl

/-- A root alone is left to search for. -/
theorem split_of_root (hparts : (Path.ofText pattern).parts = [])
    (hanchor : (Path.ofText pattern).anchor ≠ .relative) :
    split directory pattern = ⟨directory, [(Path.ofText pattern).anchor.text]⟩ := by
  unfold split
  generalize Path.ofText pattern = p at hparts hanchor ⊢
  obtain ⟨anchor, parts⟩ := p
  obtain rfl : parts = [] := hparts
  cases anchor with
  | relative => exact absurd rfl hanchor
  | root => rfl
  | doubleRoot => rfl

/-- A split that keeps the whole pattern and is made in the right place: the base and the components to
search for lead where the pattern leads, no wildcard is left in what was taken into the base, and the
components to search for begin with a wildcard or are the last one. -/
structure Split.Faithful (s : Split) (directory : Path) (pattern : Text) : Prop where
  whole : s.base.join (Path.ofText s.relativeText) = directory.join (Path.ofText pattern)
  front : ∃ q : Path, s.base = directory.join q ∧
    q.components ++ s.relative = (Path.ofText pattern).components ∧
    ∀ part ∈ q.components, isWild part = false
  wild : isWild pattern = true → ∃ first more, s.relative = first :: more ∧ isWild first = true
  plain : isWild pattern = false → s.relative = (Path.ofText pattern).components.getLast?.toList

theorem components_eq (p : Path) :
    p.components = (if p.anchor = .relative then [] else [p.anchor.text]) ++ p.parts := by
  obtain ⟨anchor, parts⟩ := p
  cases anchor <;> rfl

/-- **Splitting loses nothing.** -/
theorem faithful_split (directory : Path) (pattern : Text) :
    (split directory pattern).Faithful directory pattern := by
  have hplain := Path.isPlain_ofText pattern
  have hwild := Component.any_isWild_parts pattern
  by_cases h : (Path.ofText pattern).parts ≠ [] ∨ (Path.ofText pattern).anchor = .relative
  · rw [split_eq h]
    have happend := cutComponents_append_eq (Path.ofText pattern).parts
    refine ⟨?_, ⟨⟨(Path.ofText pattern).anchor, _⟩, rfl, ?_, ?_⟩, fun hpattern => ?_, fun hpattern => ?_⟩
    · have hrelative : ∀ part ∈ (cutComponents (Path.ofText pattern).parts).2,
          Path.IsPlainPart part := by
        intro part hpart
        refine hplain part ?_
        rw [← happend]
        exact List.mem_append_right _ hpart
      rw [Split.relativeText, Path.ofText_join hrelative, Path.join_assoc]
      simp only [Path.join, happend]
    · rw [components_eq, components_eq, List.append_assoc, happend]
    · intro part hpart
      rw [components_eq] at hpart
      rcases List.mem_append.1 hpart with hpart | hpart
      · split at hpart
        · simp at hpart
        · obtain rfl := List.mem_singleton.1 hpart
          exact Component.isWild_anchor _
      · exact plain_of_mem_cutComponents hpart
    · exact cutComponents_of_wild (hwild.trans hpattern)
    · rw [cutComponents_of_plain (hwild.trans hpattern), components_eq]
      by_cases hparts : (Path.ofText pattern).parts = []
      · rw [if_pos (h.resolve_left (by simpa using hparts)), List.nil_append]
      · rw [List.getLast?_append_of_ne_nil _ hparts]
  · -- A root alone is left to search for, and it starts over wherever it is followed from.
    simp only [not_or, not_not] at h
    obtain ⟨hparts, hanchor⟩ := h
    have hpath : Path.ofText (Path.ofText pattern).anchor.text = Path.ofText pattern := by
      have hread := @Path.ofText_anchor_join (Path.ofText pattern).anchor [] (by simp)
      rw [Text.join, List.intercalate_nil, List.append_nil, ← hparts] at hread
      exact hread
    rw [split_of_root hparts hanchor]
    refine ⟨?_, ⟨⟨.relative, []⟩, ?_, ?_, ?_⟩, fun hpattern => ?_, fun _ => ?_⟩
    · rw [Split.relativeText, Text.join, List.intercalate_singleton, hpath]
    · simp [Path.join]
    · simp [components_eq, hparts, hanchor]
    · simp [Path.components]
    · rw [← hwild, hparts] at hpattern
      simp at hpattern
    · simp [components_eq, hparts, hanchor]

/-! ## Spelling out the directory -/

/-- A pattern is split the same, whether its directory is given apart or spelled out in front of it. -/
theorem split_spelled_out {d : Text} (hanchor : (Path.ofText d).anchor ≠ .relative)
    (hd : ∀ part ∈ (Path.ofText d).parts, isWild part = false)
    (hparts : (Path.ofText pattern).parts ≠ []) (other : Path) :
    split other ((Path.ofText d).join (Path.ofText pattern)).toText =
      split (Path.ofText d) pattern := by
  have hread := Path.ofText_toText ((Path.isPlain_ofText d).join (Path.isPlain_ofText pattern))
  rw [split_eq (.inl hparts)]
  by_cases h : (Path.ofText pattern).anchor = .relative
  · have hjoin := Path.join_of_relative h (Path.ofText d)
    rw [hjoin (Path.ofText pattern).parts] at hread
    rw [hjoin (Path.ofText pattern).parts, hjoin, split_eq (.inl (by rw [hread]; simp [hparts])), hread,
      cutComponents_append_of_plain (by simpa [List.any_eq_false] using hd) hparts,
      Path.join_of_anchor hanchor]
  · have hjoin (p : Path) := Path.join_of_anchor h p
    rw [hjoin _ (Path.ofText pattern).parts] at hread
    rw [hjoin _ (Path.ofText pattern).parts, hjoin, split_eq (.inl (by rwa [hread])), hread, hjoin]

/-- **A directory may be spelled out.** A search from a directory with an anchor and without wildcards is
the search for the pattern that has this directory in front, from wherever it is made. -/
theorem find_spelled_out (t : FileTree) {d : Text} (hanchor : (Path.ofText d).anchor ≠ .relative)
    (hd : ∀ part ∈ (Path.ofText d).parts, isWild part = false)
    (hparts : (Path.ofText pattern).parts ≠ []) (other : Option Path) :
    find t other ((Path.ofText d).join (Path.ofText pattern)).toText =
      find t (some (Path.ofText d)) pattern := by
  unfold find
  simp only [split_spelled_out hanchor hd hparts, Option.getD_some]

end Pattern

end BlazorBridge

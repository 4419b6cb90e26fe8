import BlazorBridge.Proofs.Text.Runs
import Mathlib.Data.List.Induction

/-!
# Marks and lines

The last and the first occurrence of a mark in a text, and the pieces that a text is cut into. A mark is
found exactly when the text contains it (`fromLast_eq_none_iff`), and what is found begins at its last
occurrence (`fromLast_eq_some_iff`). Every line of a text is a part of it, and a mark within lines stands
in joined lines exactly if it stands in one of them (`infix_join_iff`).
-/

namespace BlazorBridge.Text

/-! ## The last mark -/

/-- `tail` is what begins at the last occurrence of `mark` in a text. -/
structure IsLastMark (mark t tail : Text) : Prop where
  suffix : tail <:+ t
  marked : mark <+: tail
  last : ∀ s, s <:+ t → mark <+: s → tail.length ≤ s.length

theorem startsWith_iff {head t : Text} : startsWith head t = true ↔ head <+: t :=
  List.isPrefixOf_iff_prefix

theorem endsWith_iff {tail t : Text} : endsWith tail t = true ↔ tail <:+ t :=
  List.isSuffixOf_iff_suffix

/-- No mark is found exactly where none occurs. -/
theorem fromLast_eq_none_iff {mark t : Text} : fromLast mark t = none ↔ ¬ mark <:+: t := by
  induction t with
  | nil =>
    rw [fromLast, List.infix_nil]
    cases mark <;> simp
  | cons c t ih =>
    rw [fromLast, List.infix_cons_iff, ← startsWith_iff]
    cases hf : fromLast mark t with
    | some tail =>
      have : mark <:+: t := by
        by_contra hn
        rw [ih.2 hn] at hf
        exact absurd hf (by simp)
      simp [this]
    | none =>
      have := ih.1 hf
      simp [this]

theorem isLastMark_of_fromLast {mark t tail : Text} (h : fromLast mark t = some tail) :
    IsLastMark mark t tail := by
  obtain ⟨hs, hm⟩ := fromLast_eq_some h
  refine ⟨hs, hm, ?_⟩
  induction t with
  | nil =>
    intro s _ _
    simp [List.suffix_nil.1 hs]
  | cons c t ih =>
    intro s hst hms
    rw [fromLast] at h
    rcases List.suffix_cons_iff.1 hst with rfl | hst
    · exact hs.length_le
    · -- An occurrence behind the first character was looked for first.
      cases hf : fromLast mark t with
      | none => exact absurd (hms.isInfix.trans hst.isInfix) (fromLast_eq_none_iff.1 hf)
      | some tail' =>
        rw [hf] at h
        obtain rfl := Option.some.inj h
        exact ih hf (fromLast_eq_some hf).1 s hst hms

/-- What is found begins at the last mark. -/
theorem fromLast_eq_some_iff {mark t tail : Text} :
    fromLast mark t = some tail ↔ IsLastMark mark t tail := by
  refine ⟨isLastMark_of_fromLast, ?_⟩
  intro h
  cases hf : fromLast mark t with
  | none => exact absurd (h.marked.isInfix.trans h.suffix.isInfix) (fromLast_eq_none_iff.1 hf)
  | some tail' =>
    have h' := isLastMark_of_fromLast hf
    have h₁ := h.last tail' h'.suffix h'.marked
    have h₂ := h'.last tail h.suffix h.marked
    have := List.suffix_of_suffix_length_le h'.suffix h.suffix h₂
    rw [this.eq_of_length (by omega)]

/-- Behind the last mark there is no other. -/
theorem IsLastMark.not_infix_tail {mark t tail : Text} (hmark : mark ≠ [])
    (h : IsLastMark mark t tail) : ¬ mark <:+: tail.tail := by
  intro hin
  obtain ⟨s, hs, hsuffix⟩ := List.infix_iff_prefix_suffix.1 hin
  have hle := h.last s (hsuffix.trans ((List.tail_suffix tail).trans h.suffix)) hs
  have hlt := hsuffix.length_le
  have hpos := List.length_pos_iff.2 hmark
  have hlength := h.marked.length_le
  rw [List.length_tail] at hlt
  omega

/-! ## The first mark -/

/-- A text with a mark in it begins with a part that ends at the first mark. -/
theorem exists_first_mark {mark t : Text} (hmark : mark ≠ []) (h : mark <:+: t) :
    ∃ head rest, t = head ++ rest ∧ mark <:+ head ∧ ¬ mark <:+: head.dropLast := by
  -- From the end of the text: the last character is part of the first mark, or the mark stands before it.
  induction t using List.reverseRecOn with
  | nil => exact absurd (List.infix_nil.1 h) hmark
  | append_singleton t c ih =>
    by_cases ht : mark <:+: t
    · obtain ⟨head, rest, rfl, hend, hfirst⟩ := ih ht
      exact ⟨head, rest ++ [c], List.append_assoc _ _ _, hend, hfirst⟩
    · have hend := (List.infix_concat_iff.1 h).resolve_right ht
      exact ⟨t ++ [c], [], (List.append_nil _).symm, hend, by rwa [List.dropLast_concat]⟩

/-! ## Pieces of a text -/

theorem infix_join_of_mem (sep : Text) {piece : Text} {pieces : List Text} (h : piece ∈ pieces) :
    piece <:+: join sep pieces := by
  induction pieces with
  | nil => simp at h
  | cons p ps ih =>
    unfold join at ih ⊢
    cases ps with
    | nil =>
      obtain rfl : piece = p := by simpa using h
      simp
    | cons q qs =>
      rw [List.intercalate_cons_cons, List.append_assoc]
      rcases List.mem_cons.1 h with rfl | h
      · exact (List.prefix_append _ _).isInfix
      · refine (ih h).trans ?_
        exact ((List.suffix_append _ _).trans (List.suffix_append _ _)).isInfix

/-- A line of a text is a part of it. -/
theorem infix_of_mem_lines {t line : Text} (h : line ∈ lines t) : line <:+: t := by
  have := infix_join_of_mem ['\n'] h
  rwa [lines, join_split] at this

/-- The pieces of a text hold nothing that it does not hold. -/
theorem subset_of_mem_split {sep : Char → Bool} {t piece : Text} (h : piece ∈ split sep t) :
    piece ⊆ t := by
  induction t generalizing piece with
  | nil =>
    obtain rfl : piece = [] := by simpa [split] using h
    exact List.nil_subset []
  | cons c t ih =>
    cases hc : sep c with
    | true =>
      rw [split_cons_sep hc, List.mem_cons] at h
      rcases h with rfl | h
      · exact List.nil_subset _
      · exact List.Subset.trans (ih h) (List.subset_cons_self c t)
    | false =>
      obtain ⟨p, ps, hsplit⟩ := List.exists_cons_of_ne_nil (split_ne_nil sep t)
      rw [split_cons_other hc, hsplit, glue, List.mem_cons] at h
      rcases h with rfl | h
      · exact List.cons_subset_cons c (ih (by simp [hsplit]))
      · exact List.Subset.trans (ih (by simp [hsplit, h])) (List.subset_cons_self c t)

/-- A text without the separating character is one piece. -/
theorem split_of_not_mem {c : Char} {t : Text} (h : c ∉ t) : split (· == c) t = [t] := by
  refine split_eq_singleton fun d hd => ?_
  rw [beq_eq_false_iff_ne]
  rintro rfl
  exact h hd

/-- The text in which every line ends with a line feed. -/
def ofLines (rows : List Text) : Text := rows.flatMap (· ++ ['\n'])

theorem ofLines_append (a b : List Text) : ofLines (a ++ b) = ofLines a ++ ofLines b :=
  List.flatMap_append

/-- The lines of a text that goes on behind complete lines. -/
theorem lines_ofLines_append {rows : List Text} (h : ∀ row ∈ rows, '\n' ∉ row) (t : Text) :
    lines (ofLines rows ++ t) = rows ++ lines t := by
  induction rows with
  | nil => rfl
  | cons row rows ih =>
    have hcons : ofLines (row :: rows) ++ t = row ++ '\n' :: (ofLines rows ++ t) := by
      simp [ofLines]
    rw [hcons, lines, split_append_sep rfl, split_of_not_mem (h row (by simp)), ← lines,
      ih fun r hr => h r (by simp [hr])]
    rfl

/-- Joined pieces, with the separator in front of each but the first. -/
theorem join_cons (sep p : Text) (ps : List Text) :
    join sep (p :: ps) = p ++ ps.flatMap (sep ++ ·) := by
  unfold join
  induction ps generalizing p with
  | nil => simp
  | cons q qs ih =>
    rw [List.intercalate_cons_cons, ih, List.flatMap_cons, List.append_assoc, List.append_assoc]

theorem not_mem_join {sep : Text} {pieces : List Text} {c : Char} (hsep : c ∉ sep)
    (h : ∀ p ∈ pieces, c ∉ p) : c ∉ join sep pieces := by
  cases pieces with
  | nil => simp [join]
  | cons p ps =>
    rw [join_cons, List.mem_append, not_or, List.mem_flatMap]
    refine ⟨h p (by simp), ?_⟩
    rintro ⟨q, hq, hc⟩
    rcases List.mem_append.1 hc with hc | hc
    · exact hsep hc
    · exact h q (by simp [hq]) hc

theorem join_append (sep : Text) {a b : List Text} (ha : a ≠ []) (hb : b ≠ []) :
    join sep (a ++ b) = join sep a ++ sep ++ join sep b := by
  obtain ⟨p, ps, rfl⟩ := List.exists_cons_of_ne_nil ha
  obtain ⟨q, qs, rfl⟩ := List.exists_cons_of_ne_nil hb
  rw [List.cons_append, join_cons, join_cons, join_cons, List.flatMap_append, List.flatMap_cons]
  simp only [List.append_assoc]

theorem join_cons_cons (c : Char) (p q : Text) (qs : List Text) :
    join [c] (p :: q :: qs) = p ++ c :: join [c] (q :: qs) := by
  simp [join, List.intercalate_cons_cons]

/-- Pieces without the separating character are cut back out of the text that they are joined to. -/
theorem split_join {c : Char} {pieces : List Text} (hne : pieces ≠ []) (h : ∀ p ∈ pieces, c ∉ p) :
    split (· == c) (join [c] pieces) = pieces := by
  induction pieces with
  | nil => exact absurd rfl hne
  | cons p ps ih =>
    cases ps with
    | nil =>
      rw [join_cons, List.flatMap_nil, List.append_nil]
      exact split_of_not_mem (h p (by simp))
    | cons q qs =>
      rw [join_cons_cons, split_append_sep (by simp), split_of_not_mem (h p (by simp)),
        ih (by simp) fun r hr => h r (by simp [hr])]
      rfl

/-- A mark without the separating character stands on one side of it. -/
theorem infix_append_cons_iff {mark a b : Text} {c : Char} (hc : c ∉ mark) :
    mark <:+: a ++ c :: b ↔ mark <:+: a ∨ mark <:+: b := by
  refine ⟨fun h => ?_, ?_⟩
  · have hside {p : Text} (hp : p <+: c :: b) (hmark : c ∉ p) : p = [] := by
      rcases List.prefix_cons_iff.1 hp with rfl | ⟨q, rfl, -⟩
      · rfl
      · simp at hmark
    rcases List.infix_append_iff.1 h with ha | hb | ⟨p, q, rfl, hp, hq⟩
    · exact .inl ha
    · rcases List.infix_cons_iff.1 hb with hb | hb
      · rw [hside hb hc]
        exact .inl List.nil_infix
      · exact .inr hb
    · rw [hside hq fun hmem => hc (List.mem_append_right p hmem), List.append_nil]
      exact .inl hp.isInfix
  · rintro (h | h)
    · exact h.trans (List.prefix_append _ _).isInfix
    · exact h.trans ((List.suffix_cons c b).trans (List.suffix_append _ _)).isInfix

/-- A mark without the separating character stands in one of the pieces. -/
theorem infix_join_iff {mark : Text} {c : Char} (hmark : mark ≠ []) (hc : c ∉ mark)
    {pieces : List Text} : mark <:+: join [c] pieces ↔ ∃ p ∈ pieces, mark <:+: p := by
  refine ⟨fun h => ?_, ?_⟩
  · induction pieces with
    | nil => exact absurd (List.infix_nil.1 h) hmark
    | cons p ps ih =>
      cases ps with
      | nil => exact ⟨p, by simp, by simpa [join] using h⟩
      | cons q qs =>
        rw [join_cons_cons, infix_append_cons_iff hc] at h
        rcases h with h | h
        · exact ⟨p, by simp, h⟩
        · obtain ⟨r, hr, hin⟩ := ih h
          exact ⟨r, by simp [hr], hin⟩
  · rintro ⟨p, hp, h⟩
    exact h.trans (infix_join_of_mem [c] hp)

theorem suffix_join (sep : Text) (ps : List Text) (p : Text) : p <:+ join sep (ps ++ [p]) := by
  cases ps with
  | nil => simp [join]
  | cons q qs =>
    rw [join_append sep (by simp) (by simp)]
    exact List.suffix_append_of_suffix (by simp [join])

/-- The first character of joined pieces is that of the first piece. -/
theorem tail_join (sep : Text) {p : Text} (hp : p ≠ []) (ps : List Text) :
    (join sep (p :: ps)).tail = join sep (p.tail :: ps) := by
  rw [join_cons, join_cons, List.tail_append_of_ne_nil hp]

/-- The last character of joined pieces is that of the last piece. -/
theorem dropLast_join (sep : Text) (ps : List Text) {p : Text} (hp : p ≠ []) :
    (join sep (ps ++ [p])).dropLast = join sep (ps ++ [p.dropLast]) := by
  cases ps with
  | nil => simp [join]
  | cons q qs =>
    rw [join_append sep (by simp) (by simp), join_append sep (by simp) (by simp),
      List.dropLast_append_of_ne_nil (by simpa [join] using hp)]
    simp [join]

theorem infix_trim (t : Text) : trim t <:+: t := by
  obtain ⟨u, v, -, -, h⟩ := exists_trim_eq t
  exact ⟨u, v, h.symm⟩

end BlazorBridge.Text

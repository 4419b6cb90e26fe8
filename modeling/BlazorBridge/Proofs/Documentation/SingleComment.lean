import BlazorBridge.Proofs.Documentation.Gate
import Mathlib.Data.List.Infix

/-!
# What a documentation block swallows

The block that the walks find begins with the mark of a documentation block, ends with a closing mark,
and holds no other opening mark. It need not be one comment: the line that ends it is chosen by how it
ends, whatever it is, so a block can go on behind the end of its comment.

Main statement (`found_single_iff`): what is found is one comment and what is swallowed behind it, which
is nothing or ends with a closing mark. It is that comment alone exactly if no line but the last holds a
closing mark, and the last only at its end. A line of code can be swallowed (`code_line_swallowed`).
-/

namespace BlazorBridge.Documentation

/-- One documentation comment: it ends at its first closing mark. -/
structure IsSingleComment (t : Text) : Prop where
  opened : docMark <+: t
  closed : closeMark <:+ t
  first : ¬ closeMark <:+: t.dropLast

instance (t : Text) : Decidable (IsSingleComment t) :=
  decidable_of_iff (docMark <+: t ∧ closeMark <:+ t ∧ ¬ closeMark <:+: t.dropLast)
    ⟨fun ⟨h₁, h₂, h₃⟩ => ⟨h₁, h₂, h₃⟩, fun ⟨h₁, h₂, h₃⟩ => ⟨h₁, h₂, h₃⟩⟩

/-! ## The ends of a block -/

theorem exists_top_of_blockLines {above block : List Text} (h : blockLines above = some block) :
    ∃ top lower, block = top :: lower ∧ docMark <+: top ∧
      ∀ piece ∈ top.tail :: lower, ¬ openMark <:+: piece := by
  obtain ⟨last, rest, -, -, hup⟩ := exists_blockUp_of_blockLines h
  obtain ⟨inner, line, higher, top, -, hinner, htop, hdoc, hblock⟩ := blockUp_eq_some_iff.1 hup
  refine ⟨top, inner.reverse, ?_, hdoc, ?_⟩
  · rw [List.reverse_eq_iff.1 hblock, List.reverse_append]
    rfl
  · intro piece hpiece
    rcases List.mem_cons.1 hpiece with rfl | hpiece
    · exact htop.not_infix_tail (by decide)
    · exact hinner piece (List.mem_reverse.1 hpiece)

/-- Only line comments stand below the line that a block ends with. -/
theorem exists_last_of_blockLines {above block : List Text} (h : blockLines above = some block) :
    ∃ comments line higher upper last, above = comments ++ line :: higher ∧
      (∀ c ∈ comments, lineMark <+: c) ∧ block = upper ++ [last] ∧ last <:+ line ∧
      closeMark <:+ last := by
  obtain ⟨line, higher, hdrop, hclose, hup⟩ := exists_blockUp_of_blockLines h
  obtain ⟨inner, opening, others, top, heq, -, htop, hdoc, hblock⟩ := blockUp_eq_some_iff.1 hup
  rw [List.reverse_eq_iff] at hblock
  have habove : above = above.takeWhile (Text.startsWith lineMark) ++ line :: higher := by
    rw [← hdrop, List.takeWhile_append_dropWhile]
  have hcomments : ∀ c ∈ above.takeWhile (Text.startsWith lineMark), lineMark <+: c :=
    fun c hc => Text.startsWith_iff.1 (List.mem_takeWhile_imp hc)
  cases inner with
  | nil =>
    -- One line opens and closes the block, and its mark is too long to cut the closing mark.
    obtain ⟨rfl, -⟩ := List.cons.inj heq
    have hlength : closeMark.length ≤ top.length := le_trans (by decide) hdoc.length_le
    exact ⟨_, line, higher, [], top, habove, hcomments, hblock, htop.suffix,
      List.suffix_of_suffix_length_le hclose htop.suffix hlength⟩
  | cons lowest inner =>
    obtain ⟨rfl, -⟩ := List.cons.inj heq
    exact ⟨_, line, higher, top :: inner.reverse, line, habove, hcomments, by rw [hblock]; simp,
      List.suffix_refl line, hclose⟩

/-! ## The text of a block -/

/-- A text that begins like a documentation comment and ends like one is a comment and what is
swallowed behind it. -/
theorem exists_comment_append {t : Text} (hopen : docMark <+: t) (hclose : closeMark <:+ t) :
    ∃ comment swallowed, t = comment ++ swallowed ∧ IsSingleComment comment ∧
      (swallowed = [] ∨ closeMark <:+ swallowed) := by
  obtain ⟨comment, swallowed, rfl, hend, hfirst⟩ :=
    Text.exists_first_mark (by decide) hclose.isInfix
  refine ⟨comment, swallowed, rfl, ⟨?_, hend, hfirst⟩, ?_⟩
  · rcases Nat.le_total docMark.length comment.length with hle | hle
    · exact List.prefix_of_prefix_length_le hopen (List.prefix_append _ _) hle
    · -- The opening mark itself closes nothing.
      have hshort := List.prefix_of_prefix_length_le (List.prefix_append _ _) hopen hle
      exact absurd (hend.isInfix.trans hshort.isInfix) (by decide)
  · rcases swallowed with _ | ⟨c, _ | ⟨d, swallowed⟩⟩
    · exact .inl rfl
    · -- Two closing marks do not overlap.
      have hstar : ['*'] <:+ comment := by
        obtain h | ⟨t, ht, hsuffix⟩ := List.suffix_concat_iff.1 hclose
        · exact absurd h (by decide)
        · have hinit := congrArg List.dropLast ht
          rw [List.dropLast_concat] at hinit
          rwa [← hinit] at hsuffix
      exact absurd (List.suffix_of_suffix_length_le hstar hend (by decide)) (by decide)
    · exact .inr (List.suffix_of_suffix_length_le hclose (List.suffix_append _ _) (by simp [closeMark]))

/-- **What is found is one comment exactly if no line goes on behind a closing mark.** In any case it
begins and ends like a comment and opens no other, and only line comments stand below it. Behind its
first closing mark stands what is swallowed, which is nothing or ends with a closing mark. -/
theorem found_single_iff (t : Text) (offset : Int) (block : List Text)
    (h : blockLines (linesAbove (Text.upTo offset t)) = some block) :
    docMark <+: Text.join ['\n'] block ∧ closeMark <:+ Text.join ['\n'] block ∧
    ¬ openMark <:+: (Text.join ['\n'] block).tail ∧
    (∃ comment swallowed, Text.join ['\n'] block = comment ++ swallowed ∧
      IsSingleComment comment ∧ (swallowed = [] ∨ closeMark <:+ swallowed)) ∧
    ∃ comments line higher upper last,
      linesAbove (Text.upTo offset t) = comments ++ line :: higher ∧
      (∀ c ∈ comments, lineMark <+: c) ∧ block = upper ++ [last] ∧ last <:+ line ∧
      (IsSingleComment (Text.join ['\n'] block) ↔
        (∀ l ∈ upper, ¬ closeMark <:+: l) ∧ ¬ closeMark <:+: last.dropLast) := by
  obtain ⟨top, lower, htop, hdoc, hfree⟩ := exists_top_of_blockLines h
  obtain ⟨comments, line, higher, upper, last, habove, hcomments, hlast, hline, hend⟩ :=
    exists_last_of_blockLines h
  have hopened : docMark <+: Text.join ['\n'] block := by
    rw [htop, Text.join_cons]
    exact hdoc.trans (List.prefix_append _ _)
  have hclosed : closeMark <:+ Text.join ['\n'] block := by
    rw [hlast]
    exact hend.trans (Text.suffix_join _ _ _)
  refine ⟨hopened, hclosed, ?_, exists_comment_append hopened hclosed,
    comments, line, higher, upper, last, habove, hcomments, hlast, hline, ?_⟩
  · have hne : top ≠ [] := by
      rintro rfl
      exact absurd hdoc (by decide)
    rw [htop, Text.tail_join _ hne, Text.infix_join_iff (by decide) (by decide)]
    rintro ⟨piece, hpiece, hopen⟩
    exact hfree piece hpiece hopen
  · have hne : last ≠ [] := by
      rintro rfl
      exact absurd hend (by decide)
    have hpieces : ¬ closeMark <:+: (Text.join ['\n'] block).dropLast ↔
        (∀ l ∈ upper, ¬ closeMark <:+: l) ∧ ¬ closeMark <:+: last.dropLast := by
      rw [hlast, Text.dropLast_join _ _ hne, Text.infix_join_iff (by decide) (by decide)]
      simp
    rw [← hpieces]
    exact ⟨fun hsingle => hsingle.first, fun hfirst => ⟨hopened, hclosed, hfirst⟩⟩

/-- A block above a line comment is found, and is one comment. -/
theorem found_single_above_line_comment :
    ∃ block, blockLines (linesAbove (Text.upTo 26
        "/**\n * Twice.\n */\n// kept\nfunction f() \x7b\x7d".toList)) = some block ∧
      IsSingleComment (Text.join ['\n'] block) := by
  let block := ["/**".toList, "* Twice.".toList, "*/".toList]
  have hfound : blockLines (linesAbove (Text.upTo 26
      "/**\n * Twice.\n */\n// kept\nfunction f() \x7b\x7d".toList)) = some block := by
    decide +kernel
  obtain ⟨-, -, -, -, -, -, -, upper, last, -, -, hlast, -, hiff⟩ := found_single_iff _ _ block hfound
  have hsplit : ["/**".toList, "* Twice.".toList] ++ ["*/".toList] = upper ++ [last] := hlast
  obtain ⟨hupper, hclosing⟩ := List.append_inj' hsplit rfl
  refine ⟨block, hfound, hiff.2 ?_⟩
  rw [← hupper, ← (List.cons.inj hclosing).1]
  decide +kernel

/-- A line of code that ends with a closing mark is swallowed, and what is found is not one comment. -/
theorem code_line_swallowed :
    ¬ ∀ (t : Text) (offset : Int) (block : List Text),
      blockLines (linesAbove (Text.upTo offset t)) = some block →
      IsSingleComment (Text.join ['\n'] block) := by
  intro h
  have hfound : blockLines (linesAbove (Text.upTo 42
      "/** @returns \x7bnumber\x7d */\nlet x = 1; // */\nfunction f() \x7b\x7d".toList)) =
      some ["/** @returns \x7bnumber\x7d */".toList, "let x = 1; // */".toList] := by
    decide +kernel
  exact absurd (h _ _ _ hfound) (by decide +kernel)

end BlazorBridge.Documentation

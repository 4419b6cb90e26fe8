import BlazorBridge.Documentation.Comments
import BlazorBridge.Proofs.Text.Marks

/-!
# The lines that become documentation

The walk over the comment lines above a declaration carries one bit, which says whether it is in a block
that it has entered from below. The bit is read off the lines that the walk has passed (`Entered`): a
line that closes a block sets it, and a line that begins with an opening mark clears it. An opening mark
further on in a line does not clear it, so the walk can go on above the block (`Outside`).

Main statement (`passed_lines_comment_or_outside`): which lines the walk passes and where it stops. What
it passes is a comment by its own look or lies in a block, unless it lies above a block that was opened
in the middle of a line. Such lines are passed, whatever they are (`code_above_block_passed`).
-/

namespace BlazorBridge.Documentation

/-! ## Since -/

/-- Of the lines passed so far, the nearest to the declaration first, some line has `P`, and all that
were passed since have `Q`. -/
def Since (P Q : Text → Prop) (passed : List Text) : Prop :=
  ∃ below line since, passed = below ++ line :: since ∧ P line ∧ ∀ l ∈ since, Q l

section

variable {P Q : Text → Prop}

theorem not_since_nil : ¬ Since P Q [] := by
  rintro ⟨below, line, since, h, -, -⟩
  simp at h

/-- One line more: it has `P` itself, or it has `Q` and some line before it has `P`. -/
theorem since_concat_iff {passed : List Text} {line : Text} :
    Since P Q (passed ++ [line]) ↔ P line ∨ Since P Q passed ∧ Q line := by
  constructor
  · rintro ⟨below, first, since, h, hP, hQ⟩
    rcases List.eq_nil_or_concat since with rfl | ⟨since, last, rfl⟩
    · obtain ⟨-, heq⟩ := List.append_inj' h rfl
      rw [(List.cons.inj heq).1]
      exact .inl hP
    · have hsplit : passed ++ [line] = (below ++ first :: since) ++ [last] := by
        rw [h]
        simp
      obtain ⟨hpassed, heq⟩ := List.append_inj' hsplit rfl
      rw [(List.cons.inj heq).1]
      exact .inr ⟨⟨below, first, since, hpassed, hP, fun l hl => hQ l (by simp [hl])⟩,
        hQ last (by simp)⟩
  · rintro (hP | ⟨⟨below, first, since, rfl, hP, hQ⟩, hline⟩)
    · exact ⟨passed, line, [], rfl, hP, by simp⟩
    · refine ⟨below, first, since ++ [line], by simp, hP, ?_⟩
      intro l hl
      rcases List.mem_append.1 hl with hl | hl
      · exact hQ l hl
      · rwa [List.mem_singleton.1 hl]

end

/-! ## Lines by their look, and lines in blocks -/

/-- A line that is a comment wherever it stands: it begins with a mark, or closes a block and opens
none. -/
def IsCommentLine (line : Text) : Prop :=
  lineMark <+: line ∨ openMark <+: line ∨ ['*'] <+: line ∨ closeMark <:+ line ∧ ¬ openMark <:+: line

instance (line : Text) : Decidable (IsCommentLine line) :=
  inferInstanceAs (Decidable (_ ∨ _ ∨ _ ∨ _ ∧ _))

/-- What the walk takes for a block: a line that is no line comment closes it, and from there on no line
begins with an opening mark. -/
def Entered : List Text → Prop :=
  Since (fun line => closeMark <:+ line ∧ ¬ lineMark <+: line ∧ ¬ openMark <+: line)
    (fun line => ¬ openMark <+: line)

/-- What is a block: a line closes it, and from there on no line holds an opening mark. -/
def Inside : List Text → Prop :=
  Since (fun line => closeMark <:+ line ∧ ¬ openMark <:+: line) (fun line => ¬ openMark <:+: line)

/-- The last line that closes a block or holds an opening mark holds one behind its front. -/
def Outside : List Text → Prop :=
  Since (fun line => openMark <:+: line ∧ ¬ openMark <+: line)
    (fun line => ¬ openMark <:+: line ∧ ¬ closeMark <:+ line)

/-- A block that the walk takes for entered is one, unless it was opened in the middle of a line. -/
theorem outside_iff_of_entered {passed : List Text} (h : Entered passed) :
    Outside passed ↔ ¬ Inside passed := by
  induction passed using List.reverseRecOn with
  | nil => exact absurd h not_since_nil
  | append_singleton passed line ih =>
    simp only [Entered, Inside, Outside, since_concat_iff] at h ih ⊢
    by_cases hopen : openMark <:+: line
    · -- The line holds an opening mark, and not at its front, since it did not end the block.
      have hfront : ¬ openMark <+: line := by
        rcases h with ⟨-, -, hfront⟩ | ⟨-, hfront⟩ <;> exact hfront
      simp [hopen, hfront]
    · by_cases hclose : closeMark <:+ line
      · simp [hopen, hclose]
      · have hpassed := (h.resolve_left fun hline => hclose hline.1).1
        simp [hopen, hclose, ih hpassed]

/-! ## One step of the walk -/

theorem isComment_iff {inBlock : Bool} {line : Text} :
    isComment inBlock line = true ↔ IsCommentLine line ∨ inBlock = true := by
  have hhas : Text.has openMark line = false ↔ ¬ openMark <:+: line := by
    rw [Text.has, ← Text.fromLast_eq_none_iff, Option.isSome_eq_false_iff, Option.isNone_iff_eq_none]
  simp only [isComment, IsCommentLine, Bool.or_eq_true, Bool.and_eq_true, Bool.not_eq_true',
    Text.startsWith_iff, Text.endsWith_iff, hhas]
  tauto

theorem inBlockAbove_iff {inBlock : Bool} {line : Text} :
    inBlockAbove inBlock line = true ↔
      ¬ openMark <+: line ∧ (inBlock = true ∨ closeMark <:+ line ∧ ¬ lineMark <+: line) := by
  unfold inBlockAbove
  rw [← @Text.startsWith_iff openMark line, ← @Text.startsWith_iff lineMark line,
    ← Text.endsWith_iff]
  cases Text.startsWith openMark line with
  | true => simp
  | false => simp

/-- The bit that the walk carries says whether it has entered a block. -/
theorem inBlockAbove_iff_entered {inBlock : Bool} {passed : List Text}
    (h : inBlock = true ↔ Entered passed) (line : Text) :
    inBlockAbove inBlock line = true ↔ Entered (passed ++ [line]) := by
  rw [inBlockAbove_iff, h, Entered, since_concat_iff]
  tauto

/-- A line can be passed: it is not blank, and is a comment by its look or lies in a block that the walk
has entered. -/
def Passable (passed : List Text) (line : Text) : Prop :=
  line ≠ [] ∧ (IsCommentLine line ∨ Entered passed)

theorem passable_iff {inBlock : Bool} {passed : List Text} (h : inBlock = true ↔ Entered passed)
    (line : Text) :
    Passable passed line ↔ (line.isEmpty || !isComment inBlock line) = false := by
  rw [Passable, ← h, ← isComment_iff]
  simp

/-! ## The whole walk -/

/-- The walk passes lines as long as they can be passed. -/
theorem commentRun_passes {inBlock : Bool} {passed : List Text} (h : inBlock = true ↔ Entered passed)
    (above : List Text) :
    ∃ higher, above = commentRun inBlock above ++ higher ∧
      (∀ below line rest, commentRun inBlock above = below ++ line :: rest →
        Passable (passed ++ below) line) ∧
      ∀ line rest, higher = line :: rest → ¬ Passable (passed ++ commentRun inBlock above) line := by
  induction above generalizing inBlock passed with
  | nil => exact ⟨[], rfl, by simp [commentRun], by simp⟩
  | cons line above ih =>
    have hline := passable_iff h line
    rw [commentRun]
    cases hstop : line.isEmpty || !isComment inBlock line with
    | true =>
      refine ⟨line :: above, rfl, by simp, ?_⟩
      intro first rest hfirst
      rw [← (List.cons.inj hfirst).1]
      simpa [hstop] using hline
    | false =>
      obtain ⟨higher, habove, hpasses, hhigher⟩ := ih (inBlockAbove_iff_entered h line)
      simp only [Bool.false_eq_true, if_false]
      refine ⟨higher, by rw [List.cons_append, ← habove], ?_, ?_⟩
      · intro below l rest hrun
        cases below with
        | nil =>
          obtain ⟨rfl, -⟩ := List.cons.inj hrun
          simpa using hline.2 hstop
        | cons b below =>
          obtain ⟨rfl, hbelow⟩ := List.cons.inj hrun
          simpa using hpasses below l rest hbelow
      · intro l rest hrest
        simpa using hhigher l rest hrest

/-- **What the walk passes is a comment, unless it lies above a block opened in the middle of a line.**
The walk goes up as long as lines can be passed, and no further. Of the lines that it passes, those that
neither are comments by their look nor lie in a block are exactly those without the look of a comment for
which, going down, the first line that holds an opening mark or closes a block holds its opening mark
behind the front. -/
theorem passed_lines_comment_or_outside (t : Text) (offset : Int) :
    ∃ higher, linesAbove (Text.upTo offset t) =
        commentRun false (linesAbove (Text.upTo offset t)) ++ higher ∧
      (∀ below line rest,
        commentRun false (linesAbove (Text.upTo offset t)) = below ++ line :: rest →
        Passable below line ∧
        (¬ (IsCommentLine line ∨ Inside below) ↔ ¬ IsCommentLine line ∧ Outside below)) ∧
      ∀ line rest, higher = line :: rest →
        ¬ Passable (commentRun false (linesAbove (Text.upTo offset t))) line := by
  have hstart : false = true ↔ Entered [] := by
    simp only [Bool.false_eq_true, false_iff]
    exact not_since_nil
  obtain ⟨higher, habove, hpasses, hhigher⟩ :=
    commentRun_passes hstart (linesAbove (Text.upTo offset t))
  refine ⟨higher, habove, ?_, hhigher⟩
  intro below line rest hrun
  have hline := hpasses below line rest hrun
  refine ⟨hline, ?_⟩
  rw [not_or, and_congr_right_iff]
  intro hlook
  exact (outside_iff_of_entered (hline.2.resolve_left hlook)).symm

/-- A line without a mark is passed in a block. -/
theorem plain_block_passed :
    commentRun false (linesAbove (Text.upTo 27
        "/*\n  Plain block\n  text */\nfunction f() \x7b\x7d".toList)) =
      ["text */".toList] ++ "Plain block".toList :: ["/*".toList] ∧
    ¬ IsCommentLine "Plain block".toList ∧ Passable ["text */".toList] "Plain block".toList ∧
    ¬ Outside ["text */".toList] := by
  have hrun : commentRun false (linesAbove (Text.upTo 27
      "/*\n  Plain block\n  text */\nfunction f() \x7b\x7d".toList)) =
      ["text */".toList] ++ "Plain block".toList :: ["/*".toList] := by
    decide +kernel
  have hlook : ¬ IsCommentLine "Plain block".toList := by decide +kernel
  have hinside : Inside ["text */".toList] :=
    ⟨[], "text */".toList, [], rfl, by decide +kernel, by simp⟩
  obtain ⟨higher, -, hpasses, -⟩ := passed_lines_comment_or_outside
    "/*\n  Plain block\n  text */\nfunction f() \x7b\x7d".toList 27
  obtain ⟨hpassable, hiff⟩ := hpasses _ _ _ hrun
  exact ⟨hrun, hlook, hpassable, fun houtside => hiff.2 ⟨hlook, houtside⟩ (.inr hinside)⟩

/-- A line of code above a block that was opened behind other code is passed, though it is no comment and
lies in no block. -/
theorem code_above_block_passed :
    ¬ ∀ (t : Text) (offset : Int) (below : List Text) (line : Text) (rest : List Text),
      commentRun false (linesAbove (Text.upTo offset t)) = below ++ line :: rest →
      IsCommentLine line ∨ Inside below := by
  intro h
  have hrun : commentRun false (linesAbove (Text.upTo 32
      "let y = 1;\nlet x = 2; /* a\nb */\nfunction f() \x7b\x7d\n".toList)) =
      (["b */".toList] ++ ["let x = 2; /* a".toList]) ++ "let y = 1;".toList :: [] := by
    decide +kernel
  have hopen : openMark <:+: "let x = 2; /* a".toList := by decide +kernel
  rcases h _ _ _ _ _ hrun with hlook | hinside
  · exact absurd hlook (by decide +kernel)
  · rcases since_concat_iff.1 hinside with ⟨-, hfree⟩ | ⟨-, hfree⟩ <;> exact hfree hopen

end BlazorBridge.Documentation

import BlazorBridge.Extraction
import BlazorBridge.Proofs.Documentation.TagGrammar
import BlazorBridge.Proofs.Text.Marks

/-!
# The documentation gate

A candidate is accepted when a documentation block touches it and states a type. Two walks upwards
decide that: one over line comments, one up to the line that opens the block. Both are recovered here
as conditions on the lines by their numbers (`TouchingBlock`), counted from the top.

Main statement (`build_accepts_iff_documented`): a candidate is accepted exactly when such a block
exists, its text states a type, and no two parameters share a name.
-/

namespace BlazorBridge.Documentation

/-! ## Lines in front of a declaration -/

/-- The lines in front of a declaration, from the top down. What of its own line stands in front of
it counts as a line unless blank. -/
def precedingLines (before : Text) : List Text :=
  if (Text.lines before).getLast?.any Text.isBlank then (Text.lines before).dropLast
  else Text.lines before

/-- The lines in front of an offset of a text, from the top down and trimmed. -/
def linesBefore (t : Text) (offset : Int) : List Text :=
  (precedingLines (Text.upTo offset t)).map Text.trim

/-- The lines that the walks go through are the preceding lines, trimmed and from below. -/
theorem linesAbove_eq (before : Text) :
    linesAbove before = ((precedingLines before).map Text.trim).reverse := by
  unfold linesAbove precedingLines
  rcases List.eq_nil_or_concat (Text.lines before) with h | ⟨above, own, h⟩
  · exact absurd h (Text.split_ne_nil _ _)
  · rw [List.concat_eq_append] at h
    have hrev : ((Text.lines before).map Text.trim).reverse =
        Text.trim own :: (above.map Text.trim).reverse := by
      rw [h, List.map_append, List.reverse_append]
      rfl
    have hlast : (Text.lines before).getLast?.any Text.isBlank = Text.isBlank own := by
      rw [h, List.getLast?_concat, Option.any_some]
    rw [hrev, hlast]
    cases hb : Text.isBlank own with
    | true =>
      rw [if_pos rfl, h, List.dropLast_concat]
      simp [Text.trim_eq_nil_iff.2 hb]
    | false =>
      have hne : Text.trim own ≠ [] := by
        rw [Ne, Text.trim_eq_nil_iff, hb]
        simp
      rw [if_neg (by simp), hrev]
      simp [hne]

/-- A preceding line is a part of the text, and so is what is left of it once it is trimmed. -/
theorem infix_of_mem_precedingLines {before line : Text}
    (h : line ∈ (precedingLines before).map Text.trim) : line <:+: before := by
  obtain ⟨raw, hraw, rfl⟩ := List.mem_map.1 h
  have hmem : raw ∈ Text.lines before := by
    unfold precedingLines at hraw
    split at hraw
    · exact List.dropLast_subset _ hraw
    · exact hraw
  exact (Text.infix_trim raw).trans (Text.infix_of_mem_lines hmem)

/-! ## Blocks by line numbers -/

/-- Among `lines`, from the top down, the lines `j` to `i` are a documentation block that touches
what follows the last line. The block begins with `top`, the part of line `j` from its last opening
mark on. -/
structure TouchingBlock (lines : List Text) (j i : Nat) (top : Text) : Prop where
  ordered : j ≤ i
  below : ∀ k line, i < k → lines[k]? = some line → lineMark <+: line
  closing : ∃ line, lines[i]? = some line ∧ ¬ lineMark <+: line ∧ closeMark <:+ line
  opening : ∃ line, lines[j]? = some line ∧ Text.IsLastMark openMark line top ∧ docMark <+: top
  inside : ∀ k line, j < k → k ≤ i → lines[k]? = some line → ¬ openMark <:+: line

/-- The lines of a block, the first of them cut. -/
def blockOf (lines : List Text) (j i : Nat) (top : Text) : List Text :=
  top :: (lines.take (i + 1)).drop (j + 1)

/-- The text of a block. -/
def blockText (lines : List Text) (j i : Nat) (top : Text) : Text :=
  Text.join ['\n'] (blockOf lines j i top)

theorem blockUp_eq_some_iff {above block : List Text} :
    blockUp above = some block ↔ ∃ inner line higher top, above = inner ++ line :: higher ∧
      (∀ l ∈ inner, ¬ openMark <:+: l) ∧ Text.IsLastMark openMark line top ∧ docMark <+: top ∧
      block = inner ++ [top] := by
  induction above generalizing block with
  | nil => simp [blockUp]
  | cons line above ih =>
    rw [blockUp]
    cases hf : Text.fromLast openMark line with
    | some top =>
      have htop := Text.fromLast_eq_some_iff.1 hf
      have hopen : openMark <:+: line := htop.marked.isInfix.trans htop.suffix.isInfix
      constructor
      · intro h
        simp only at h
        split at h
        · rename_i hdoc
          obtain rfl := Option.some.inj h
          exact ⟨[], line, above, top, rfl, by simp, htop, Text.startsWith_iff.1 hdoc, rfl⟩
        · simp at h
      · rintro ⟨inner, line', higher, top', heq, hinner, htop', hdoc, rfl⟩
        cases inner with
        | nil =>
          obtain ⟨rfl, rfl⟩ := List.cons.inj heq
          rw [Text.fromLast_eq_some_iff.2 htop', Option.some.injEq] at hf
          subst hf
          simp [Text.startsWith_iff.2 hdoc]
        | cons l inner =>
          obtain ⟨rfl, -⟩ := List.cons.inj heq
          exact absurd hopen (hinner line (by simp))
    | none =>
      have hnone := Text.fromLast_eq_none_iff.1 hf
      simp only [Option.map_eq_some_iff]
      constructor
      · rintro ⟨block', hblock', rfl⟩
        obtain ⟨inner, line', higher, top, rfl, hinner, htop, hdoc, rfl⟩ := ih.1 hblock'
        refine ⟨line :: inner, line', higher, top, rfl, ?_, htop, hdoc, rfl⟩
        intro l hl
        rcases List.mem_cons.1 hl with rfl | hl
        · exact hnone
        · exact hinner l hl
      · rintro ⟨inner, line', higher, top, heq, hinner, htop, hdoc, rfl⟩
        cases inner with
        | nil =>
          obtain ⟨rfl, -⟩ := List.cons.inj heq
          exact absurd (htop.marked.isInfix.trans htop.suffix.isInfix) hnone
        | cons l inner =>
          obtain ⟨rfl, rfl⟩ := List.cons.inj heq
          exact ⟨inner ++ [top], ih.2 ⟨inner, line', higher, top, rfl,
            fun l hl => hinner l (by simp [hl]), htop, hdoc, rfl⟩, rfl⟩

/-- What the walks find ends on the first line that is no line comment, and that line closes a block. -/
theorem exists_blockUp_of_blockLines {above block : List Text} (h : blockLines above = some block) :
    ∃ line rest, above.dropWhile (Text.startsWith lineMark) = line :: rest ∧ closeMark <:+ line ∧
      blockUp (line :: rest) = some block.reverse := by
  unfold blockLines at h
  split at h
  · simp at h
  · rename_i line rest hdrop
    split at h
    · rename_i hclose
      obtain ⟨up, hup, rfl⟩ := Option.map_eq_some_iff.1 h
      exact ⟨line, rest, hdrop, Text.endsWith_iff.1 hclose, by rw [hup, List.reverse_reverse]⟩
    · simp at h

/-- Lines by number, between two numbers. -/
theorem forall_mem_slice_iff {lines : List Text} {j i : Nat} {P : Text → Prop} :
    (∀ l ∈ (lines.take (i + 1)).drop (j + 1), P l) ↔
      ∀ k line, j < k → k ≤ i → lines[k]? = some line → P line := by
  constructor
  · intro h k line hj hi hk
    refine h line (List.mem_iff_getElem?.2 ⟨k - (j + 1), ?_⟩)
    rw [List.getElem?_drop, show j + 1 + (k - (j + 1)) = k by omega,
      List.getElem?_take_of_lt (by omega), hk]
  · intro h l hl
    obtain ⟨n, hn⟩ := List.mem_iff_getElem?.1 hl
    rw [List.getElem?_drop, List.getElem?_take] at hn
    split at hn
    · exact h (j + 1 + n) l (by omega) (by omega) hn
    · simp at hn

theorem forall_mem_drop_iff {lines : List Text} {i : Nat} {P : Text → Prop} :
    (∀ l ∈ lines.drop (i + 1), P l) ↔ ∀ k line, i < k → lines[k]? = some line → P line := by
  constructor
  · intro h k line hi hk
    refine h line (List.mem_iff_getElem?.2 ⟨k - (i + 1), ?_⟩)
    rw [List.getElem?_drop, show i + 1 + (k - (i + 1)) = k by omega, hk]
  · intro h l hl
    obtain ⟨n, hn⟩ := List.mem_iff_getElem?.1 hl
    rw [List.getElem?_drop] at hn
    exact h (i + 1 + n) l (by omega) hn

/-- The lines up to a number end with the line of that number. -/
theorem take_succ_eq {lines : List Text} {i : Nat} {line : Text} (h : lines[i]? = some line) :
    lines.take (i + 1) = lines.take i ++ [line] := by
  rw [List.take_add_one, h, Option.toList_some]

/-- The walks find a touching block. -/
theorem TouchingBlock.blockLines_eq {lines : List Text} {j i : Nat} {top : Text}
    (h : TouchingBlock lines j i top) :
    blockLines lines.reverse = some (blockOf lines j i top) := by
  obtain ⟨last, hlast, hline, hclose⟩ := h.closing
  obtain ⟨line, hopening, htop, hdoc⟩ := h.opening
  have hbelow : ∀ l ∈ (lines.drop (i + 1)).reverse, Text.startsWith lineMark l = true := by
    intro l hl
    exact Text.startsWith_iff.2 (forall_mem_drop_iff.2 h.below l (List.mem_reverse.1 hl))
  -- The first walk stops at the line that closes the block.
  have hsplit : lines.reverse = (lines.drop (i + 1)).reverse ++ last :: (lines.take i).reverse := by
    conv_lhs => rw [← List.take_append_drop (i + 1) lines]
    rw [List.reverse_append, take_succ_eq hlast, List.reverse_append]
    rfl
  have hdrop : lines.reverse.dropWhile (Text.startsWith lineMark) =
      last :: (lines.take i).reverse := by
    rw [hsplit, List.dropWhile_append_of_pos hbelow]
    refine List.dropWhile_cons_of_neg ?_
    rwa [Text.startsWith_iff]
  -- The second goes up to the line that opens it.
  have htake : last :: (lines.take i).reverse =
      ((lines.take (i + 1)).drop (j + 1)).reverse ++ line :: (lines.take j).reverse := by
    have hcons : last :: (lines.take i).reverse = (lines.take (i + 1)).reverse := by
      rw [take_succ_eq hlast, List.reverse_append]
      rfl
    have hle : (lines.take (i + 1)).take (j + 1) = lines.take (j + 1) := by
      rw [List.take_take, Nat.min_eq_left (Nat.succ_le_succ h.ordered)]
    rw [hcons]
    conv_lhs => rw [← List.take_append_drop (j + 1) (lines.take (i + 1))]
    rw [List.reverse_append, hle, take_succ_eq hopening, List.reverse_append]
    rfl
  have hup : blockUp (last :: (lines.take i).reverse) =
      some (((lines.take (i + 1)).drop (j + 1)).reverse ++ [top]) := by
    refine blockUp_eq_some_iff.2 ⟨_, line, _, top, htake, ?_, htop, hdoc, rfl⟩
    intro l hl
    exact forall_mem_slice_iff.2 h.inside l (List.mem_reverse.1 hl)
  unfold blockLines
  rw [hdrop]
  simp only [Text.endsWith_iff.2 hclose, if_true]
  rw [hup, Option.map_some, List.reverse_append, List.reverse_reverse]
  rfl

/-- What the walks find is a touching block. -/
theorem exists_touchingBlock {lines block : List Text} (h : blockLines lines.reverse = some block) :
    ∃ j i top, TouchingBlock lines j i top ∧ block = blockOf lines j i top := by
  obtain ⟨last, rest, hdrop, hclose, hup⟩ := exists_blockUp_of_blockLines h
  obtain ⟨inner, line, higher, top, heq, hinner, htop, hdoc, hblock⟩ := blockUp_eq_some_iff.1 hup
  let below := lines.reverse.takeWhile (Text.startsWith lineMark)
  have hlines : lines = (last :: rest).reverse ++ below.reverse := by
    rw [← List.reverse_append, ← hdrop, List.takeWhile_append_dropWhile, List.reverse_reverse]
  have hlength : (last :: rest).reverse.length = rest.length + 1 := by simp
  have htake : lines.take (rest.length + 1) = higher.reverse ++ line :: inner.reverse := by
    rw [hlines, List.take_left' hlength, heq, List.reverse_append, List.reverse_cons,
      List.append_assoc]
    rfl
  have hslice : (lines.take (rest.length + 1)).drop (higher.length + 1) = inner.reverse := by
    rw [htake, List.append_cons, List.drop_left' (by simp)]
  have hget (k : Nat) (hk : k < rest.length + 1) :
      lines[k]? = (higher.reverse ++ line :: inner.reverse)[k]? := by
    rw [← htake, List.getElem?_take_of_lt hk]
  have hcount : higher.length ≤ rest.length := by
    have := congrArg List.length heq
    simp only [List.length_cons, List.length_append] at this
    omega
  refine ⟨higher.length, rest.length, top,
    ⟨hcount, ?_, ⟨last, ?_, ?_⟩, ⟨line, ?_, htop, hdoc⟩, ?_⟩, ?_⟩
  · rw [← forall_mem_drop_iff, hlines, List.drop_left' hlength]
    intro l hl
    exact Text.startsWith_iff.1 (List.mem_takeWhile_imp (List.mem_reverse.1 hl))
  · rw [hlines, List.getElem?_append_left (by omega), List.reverse_cons,
      List.getElem?_append_right (by simp)]
    simp
  · refine ⟨?_, hclose⟩
    have := List.head?_dropWhile_not (Text.startsWith lineMark) lines.reverse
    rw [hdrop] at this
    rw [← Text.startsWith_iff]
    simpa using this
  · rw [hget _ (by omega), List.getElem?_append_right (by simp)]
    simp
  · rw [← forall_mem_slice_iff, hslice]
    intro l hl
    exact hinner l (List.mem_reverse.1 hl)
  · rw [blockOf, hslice, List.reverse_eq_iff.1 hblock, List.reverse_append]
    rfl

/-- The types of a declaration are those that its touching block states. -/
theorem TouchingBlock.typeTags_eq {lines : List Text} {j i : Nat} {top : Text}
    (h : TouchingBlock lines j i top) :
    typeTags lines.reverse = TypeTags.ofText (blockText lines j i top) := by
  unfold typeTags
  rw [h.blockLines_eq]
  rfl

/-- Types are stated exactly when a touching block states them. -/
theorem typeTags_stated_iff {lines : List Text} :
    (typeTags lines.reverse).stated = true ↔ ∃ j i top, TouchingBlock lines j i top ∧
      (TypeTags.ofText (blockText lines j i top)).stated = true := by
  constructor
  · intro h
    cases hb : blockLines lines.reverse with
    | none =>
      rw [typeTags, hb] at h
      exact absurd h (by decide)
    | some block =>
      obtain ⟨j, i, top, htouch, -⟩ := exists_touchingBlock hb
      exact ⟨j, i, top, htouch, by rwa [htouch.typeTags_eq] at h⟩
  · rintro ⟨j, i, top, htouch, h⟩
    rwa [htouch.typeTags_eq]

/-- The mark of a documentation block stands in the text in front of a declaration that a block
touches. -/
theorem TouchingBlock.docMark_infix {t top : Text} {offset : Int} {j i : Nat}
    (h : TouchingBlock (linesBefore t offset) j i top) : docMark <:+: Text.upTo offset t := by
  obtain ⟨line, hline, htop, hdoc⟩ := h.opening
  exact (hdoc.isInfix.trans htop.suffix.isInfix).trans
    (infix_of_mem_precedingLines (List.mem_of_getElem? hline))

end BlazorBridge.Documentation

namespace BlazorBridge.Extraction

open Documentation (linesBefore TouchingBlock blockText docMark)

/-! ## Names -/

/-- No name is repeated exactly when all names are distinct. -/
theorem repeated_eq_nil_iff {names : List Text} : repeated names = [] ↔ names.Nodup := by
  have hsort : repeated names = [] ↔ names.filter (fun n => decide (1 < names.count n)) = [] := by
    unfold repeated
    rw [← List.length_eq_zero_iff, List.length_mergeSort, List.length_eq_zero_iff]
    cases names.filter (fun n => decide (1 < names.count n)) with
    | nil => simp
    | cons n ns => simp [List.eraseDups_cons]
  rw [hsort, List.filter_eq_nil_iff, List.nodup_iff_count]
  constructor
  · intro h n
    by_cases hn : n ∈ names
    · simpa using h n hn
    · rw [List.count_eq_zero.2 hn]
      omega
  · intro h n _
    simpa using h n

/-- Names that do not begin with an at sign stay distinct when they are escaped. -/
theorem nodup_map_escape {names : List Text} (h : names.Nodup)
    (hat : ∀ n ∈ names, n.head? ≠ some '@') : (names.map Naming.escape).Nodup := by
  refine List.pairwise_map.2 (h.imp_of_mem fun {a b} ha hb hne hab => hne ?_)
  unfold Naming.escape at hab
  split at hab
  · split at hab
    · exact (List.cons.inj hab).2
    · exact absurd (by rw [← hab]; rfl) (hat b hb)
  · split at hab
    · exact absurd (by rw [hab]; rfl) (hat a ha)
    · exact hab

/-! ## The gate -/

/-- A candidate is accepted exactly when types are stated and its parameters have distinct names. -/
theorem buildBelow_eq_ok_iff {above : List Text} {c : Candidate} {f : JsFunction} :
    buildBelow above c = .ok f ↔
      (Documentation.typeTags above).stated = true ∧
      ((Parameter.ofList (Documentation.typeTags above) c.parameters).map Parameter.name).Nodup ∧
      f = { name := c.name
            parameters := Parameter.ofList (Documentation.typeTags above) c.parameters
            result := resultType (Documentation.typeTags above) c
            isAsync := c.isAsync
            documentation := Documentation.commentLines above } := by
  unfold buildBelow
  dsimp only
  by_cases hs : (Documentation.typeTags above).stated = true
  · rw [if_pos hs, ← repeated_eq_nil_iff]
    split
    · rename_i hnil
      simp [hs, hnil, eq_comm]
    · rename_i hne
      simp only [reduceCtorEq, false_iff]
      rintro ⟨-, hnil, -⟩
      exact hne hnil
  · rw [if_neg hs]
    simp [hs]

/-- **The documentation gate.** A candidate is accepted exactly when a documentation block touches it
and states a type, and the names of its parameters are distinct. Names that are accepted stay distinct
when they are escaped, unless one begins with an at sign. Without the mark of a documentation block in
front of it no candidate is accepted. -/
theorem build_accepts_iff_documented (t : Text) (c : Candidate) :
    ((∃ f, build t c = .ok f) ↔
      ∃ j i top, TouchingBlock (linesBefore t c.start) j i top ∧
        TypeTags.States (blockText (linesBefore t c.start) j i top) ∧
        ((Parameter.ofList (TypeTags.ofText (blockText (linesBefore t c.start) j i top))
          c.parameters).map Parameter.name).Nodup) ∧
    (∀ f, build t c = .ok f → (f.parameters.map Parameter.name).Nodup ∧
      ((∀ p ∈ f.parameters, p.name.head? ≠ some '@') →
        (f.parameters.map fun p => Naming.escape p.name).Nodup)) ∧
    (¬ docMark <:+: Text.upTo c.start t →
      build t c = .error ⟨c.name, .undocumented, c.start⟩) := by
  have habove : Documentation.linesAbove (Text.upTo c.start t) = (linesBefore t c.start).reverse :=
    Documentation.linesAbove_eq _
  unfold build
  rw [habove]
  refine ⟨?_, ?_, ?_⟩
  · constructor
    · rintro ⟨f, hf⟩
      obtain ⟨hstated, hnames, -⟩ := buildBelow_eq_ok_iff.1 hf
      obtain ⟨j, i, top, htouch, hblock⟩ := Documentation.typeTags_stated_iff.1 hstated
      rw [htouch.typeTags_eq] at hnames
      exact ⟨j, i, top, htouch, TypeTags.stated_ofText_iff.1 hblock, hnames⟩
    · rintro ⟨j, i, top, htouch, hstates, hnames⟩
      rw [← htouch.typeTags_eq] at hnames
      have hstated := Documentation.typeTags_stated_iff.2
        ⟨j, i, top, htouch, TypeTags.stated_ofText_iff.2 hstates⟩
      exact ⟨_, buildBelow_eq_ok_iff.2 ⟨hstated, hnames, rfl⟩⟩
  · intro f hf
    obtain ⟨-, hnames, rfl⟩ := buildBelow_eq_ok_iff.1 hf
    refine ⟨hnames, fun hat => ?_⟩
    have hescaped := nodup_map_escape hnames (by simpa using hat)
    rwa [List.map_map] at hescaped
  · intro hmark
    have hstated : ¬ (Documentation.typeTags (linesBefore t c.start).reverse).stated = true := by
      rw [Documentation.typeTags_stated_iff]
      rintro ⟨j, i, top, htouch, -⟩
      exact hmark htouch.docMark_infix
    unfold buildBelow
    dsimp only
    rw [if_neg hstated]

end BlazorBridge.Extraction

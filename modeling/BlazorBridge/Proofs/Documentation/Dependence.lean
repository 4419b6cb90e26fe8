import BlazorBridge.Proofs.Documentation.Written
import Mathlib.Data.List.Forall2

/-!
# What the documentation of a declaration depends on

Both walks over the lines above a declaration stop at what they look for: the walk over comments at a
blank line, whatever block it is in (`commentRun_append_blank`), the other at the line that opens the
block (`blockUp_append_of_some`). Both see lines without the white space around them.

Main statements: nothing above a blank line changes the documentation lines, and nothing above a block
that is found changes its types (`nearest_lines_decide`). Texts with the same lines up to the white space
around them give the same outcome (`layout_irrelevant`).
-/

namespace BlazorBridge.Documentation

/-! ## What stands above -/

/-- White space is trimmed to empty lines. -/
theorem trim_eq_nil_of_mem_lines {gap line : Text} (hgap : Text.isBlank gap = true)
    (h : line ∈ (Text.lines gap).map Text.trim) : line = [] := by
  obtain ⟨raw, hraw, rfl⟩ := List.mem_map.1 h
  rw [Text.trim_eq_nil_iff, Text.isBlank_iff]
  intro c hc
  exact Text.isBlank_iff.1 hgap c ((Text.infix_of_mem_lines hraw).subset hc)

/-- Below white space that stands on lines of its own, a blank line comes first of the lines above. -/
theorem exists_linesAbove_gap (above : Text) {gap : Text} (hgap : Text.isBlank gap = true)
    (before : Text) :
    ∃ higher, linesAbove (above ++ '\n' :: (gap ++ '\n' :: before)) =
      linesAbove before ++ [] :: higher := by
  rw [linesAbove_append, linesAbove_append]
  cases hlines : ((Text.lines gap).map Text.trim).reverse with
  | nil =>
    rw [List.reverse_eq_nil_iff, List.map_eq_nil_iff] at hlines
    exact absurd hlines (Text.split_ne_nil _ _)
  | cons line lines =>
    have hline : line ∈ ((Text.lines gap).map Text.trim).reverse := by
      rw [hlines]
      exact List.mem_cons_self
    obtain rfl := trim_eq_nil_of_mem_lines hgap (List.mem_reverse.1 hline)
    rw [List.append_assoc, List.cons_append]
    exact ⟨_, rfl⟩

/-- The walk over comments stops at a blank line, in a block or not. -/
theorem commentRun_append_blank (inBlock : Bool) (lines higher : List Text) :
    commentRun inBlock (lines ++ [] :: higher) = commentRun inBlock lines := by
  induction lines generalizing inBlock with
  | nil => rfl
  | cons line lines ih =>
    rw [List.cons_append, commentRun, commentRun, ih]

theorem commentLines_append_blank (lines higher : List Text) :
    commentLines (lines ++ [] :: higher) = commentLines lines := by
  rw [commentLines, commentRun_append_blank, commentLines]

/-- The walk through a block ends at the line that opens it. -/
theorem blockUp_append_of_some {lines block : List Text} (h : blockUp lines = some block)
    (higher : List Text) : blockUp (lines ++ higher) = some block := by
  obtain ⟨inner, line, upper, top, rfl, hinner, htop, hdoc, hblock⟩ := blockUp_eq_some_iff.1 h
  refine blockUp_eq_some_iff.2 ⟨inner, line, upper ++ higher, top, ?_, hinner, htop, hdoc, hblock⟩
  rw [List.append_assoc, List.cons_append]

/-- A block that is found is found whatever stands above it. -/
theorem blockLines_append_of_some {lines block : List Text} (h : blockLines lines = some block)
    (higher : List Text) : blockLines (lines ++ higher) = some block := by
  obtain ⟨line, rest, hdrop, hclose, hup⟩ := exists_blockUp_of_blockLines h
  have hwalk : (lines ++ higher).dropWhile (Text.startsWith lineMark) = line :: (rest ++ higher) := by
    rw [List.dropWhile_append, hdrop]
    rfl
  have hhigher := blockUp_append_of_some hup higher
  rw [List.cons_append] at hhigher
  unfold blockLines
  rw [hwalk]
  simp only [Text.endsWith_iff.2 hclose, if_true]
  rw [hhigher, Option.map_some, List.reverse_reverse]

/-- **Only the nearest lines decide.** The documentation lines of a declaration are the same whatever
stands above a blank line in front of it; `gap` is the white space on that line, and on others if it holds
line feeds. The types of a declaration are the same whatever stands above the block that states them. -/
theorem nearest_lines_decide (above t : Text) (n : Nat) :
    (∀ gap, Text.isBlank gap = true →
      commentLines (linesAbove (Text.upTo (above.length + (gap.length + 2) + n)
        (above ++ ('\n' :: gap ++ ['\n']) ++ t))) =
      commentLines (linesAbove (Text.upTo n t))) ∧
    ∀ block, blockLines (linesAbove (Text.upTo n t)) = some block →
      blockLines (linesAbove (Text.upTo (above.length + 1 + n) (above ++ ['\n'] ++ t))) = some block ∧
      typeTags (linesAbove (Text.upTo (above.length + 1 + n) (above ++ ['\n'] ++ t))) =
        typeTags (linesAbove (Text.upTo n t)) := by
  rw [Text.upTo_natCast]
  constructor
  · intro gap hgap
    have hbefore : Text.upTo (above.length + (gap.length + 2) + n)
        (above ++ ('\n' :: gap ++ ['\n']) ++ t) =
          above ++ '\n' :: (gap ++ '\n' :: t.take n) := by
      have h := Text.upTo_append (above ++ ('\n' :: gap ++ ['\n'])) t n
      simpa [Int.add_assoc] using h
    obtain ⟨higher, hlines⟩ := exists_linesAbove_gap above hgap (t.take n)
    rw [hbefore, hlines, commentLines_append_blank]
  · intro block hblock
    have hbefore : Text.upTo (above.length + 1 + n) (above ++ ['\n'] ++ t) =
        above ++ '\n' :: t.take n := by
      have h := Text.upTo_append (above ++ ['\n']) t n
      simpa using h
    have hfound : blockLines (linesAbove (above ++ '\n' :: t.take n)) = some block := by
      rw [linesAbove_append]
      exact blockLines_append_of_some hblock _
    rw [hbefore]
    refine ⟨hfound, ?_⟩
    rw [typeTags, typeTags, hfound, hblock]

/-- A declaration below a block, and above that the end of another block that is not opened. -/
def halved : Text :=
  "of it. */\n/** Counts. @returns \x7bnumber\x7d */\nfunction f() \x7b\x7d".toList

/-- What would open the other block. -/
def halvedAbove : Text := "/** The rest @param \x7bstring\x7d x".toList

theorem nearest_lines_decide_halved :
    commentLines (linesAbove (Text.upTo (30 + 2 + 43) (halvedAbove ++ "\n\n".toList ++ halved))) =
        ["of it.".toList, "Counts. @returns \x7bnumber\x7d".toList] ∧
      typeTags (linesAbove (Text.upTo (30 + 1 + 43) (halvedAbove ++ "\n".toList ++ halved))) =
        { result := some "number".toList } := by
  obtain ⟨hcomments, htags⟩ := nearest_lines_decide halvedAbove halved 43
  have hblock : blockLines (linesAbove (Text.upTo 43 halved)) =
      some ["/** Counts. @returns \x7bnumber\x7d */".toList] := by decide +kernel
  constructor
  · refine (hcomments [] rfl).trans ?_
    decide +kernel
  · refine (htags _ hblock).2.trans ?_
    decide +kernel

/-! ## Layout -/

/-- Two texts have the same lines up to the white space around them. -/
def SameLines (a b : Text) : Prop :=
  List.Forall₂ (fun l l' => Text.trim l = Text.trim l') (Text.lines a) (Text.lines b)

theorem sameLines_iff {a b : Text} :
    SameLines a b ↔ (Text.lines a).map Text.trim = (Text.lines b).map Text.trim := by
  rw [← List.forall₂_eq_eq_eq, List.forall₂_map_left_iff, List.forall₂_map_right_iff]
  rfl

/-- The walks see only what such texts have in common. -/
theorem SameLines.linesAbove_eq {a b : Text} (h : SameLines a b) : linesAbove a = linesAbove b := by
  rw [linesAbove, linesAbove, sameLines_iff.1 h]

/-- A text with white space put in front of its lines and behind them, by their numbers. -/
def respace (front back : Nat → Text) (t : Text) : Text :=
  Text.join ['\n'] ((Text.lines t).mapIdx fun n line => front n ++ line ++ back n)

/-- Indents, white space at the ends of lines and returns in front of line feeds do not matter. -/
theorem sameLines_respace {front back : Nat → Text} (hfront : ∀ n, IsIndent (front n))
    (hback : ∀ n, IsIndent (back n)) (t : Text) : SameLines t (respace front back t) := by
  have hlines : Text.lines (respace front back t) =
      (Text.lines t).mapIdx fun n line => front n ++ line ++ back n := by
    refine Text.split_join ?_ ?_
    · rw [Ne, List.mapIdx_eq_nil_iff]
      exact Text.split_ne_nil _ _
    · intro row hrow
      obtain ⟨n, hn, rfl⟩ := List.mem_mapIdx.1 hrow
      have hline : '\n' ∉ (Text.lines t)[n] := by
        intro hmem
        have hsep := Text.not_sep_of_mem_split (List.getElem_mem hn) hmem
        exact absurd hsep (by decide)
      exact List.not_mem_append (List.not_mem_append (hfront n).single hline) (hback n).single
  rw [sameLines_iff, hlines]
  refine List.ext_getElem? fun n => ?_
  simp [Function.comp_def, Text.trim_append_of_isBlank _ (hback _).blank,
    Text.trim_blank_append (hfront _).blank]

end BlazorBridge.Documentation

namespace BlazorBridge.Extraction

open Documentation (SameLines respace IsIndent linesAbove commentLines typeTags)

/-- The offset of a candidate is only reported. -/
theorem buildBelow_start (above : List Text) (c : Candidate) (offset : Int) :
    buildBelow above { c with start := offset } =
      (buildBelow above c).mapError fun r => { r with start := offset } := by
  unfold buildBelow
  dsimp only
  split
  · split
    · rfl
    · rfl
  · rfl

/-- **Layout does not matter.** Where the lines of two texts up to two offsets are the same but for the
white space around them, the documentation lines and the types are the same, and a candidate at the one
offset has the same outcome as at the other, but for the offset that a rejection reports. That is so of
texts that differ in indents, in white space at the ends of lines, or in how lines end. -/
theorem layout_irrelevant :
    (∀ (t t' : Text) (offset offset' : Int),
      SameLines (Text.upTo offset t) (Text.upTo offset' t') →
      commentLines (linesAbove (Text.upTo offset t)) =
        commentLines (linesAbove (Text.upTo offset' t')) ∧
      typeTags (linesAbove (Text.upTo offset t)) = typeTags (linesAbove (Text.upTo offset' t')) ∧
      ∀ c : Candidate, build t' { c with start := offset' } =
        (build t { c with start := offset }).mapError fun r => { r with start := offset' }) ∧
    ∀ (t : Text) (front back : Nat → Text), (∀ n, IsIndent (front n)) → (∀ n, IsIndent (back n)) →
      SameLines t (respace front back t) := by
  refine ⟨?_, fun t front back hfront hback => Documentation.sameLines_respace hfront hback t⟩
  intro t t' offset offset' h
  have hlines := h.linesAbove_eq
  refine ⟨by rw [hlines], by rw [hlines], fun c => ?_⟩
  have hbuild : build t' { c with start := offset' } =
      buildBelow (linesAbove (Text.upTo offset t)) { c with start := offset' } := by
    rw [hlines]
    rfl
  rw [hbuild]
  exact buildBelow_start _ { c with start := offset } offset'

/-- A declaration that gives two parameters one name, below its documentation. -/
def tidy : Text := "/**\n * Adds.\n * @returns \x7bnumber\x7d\n */\nfunction f(a, a) \x7b\x7d".toList

/-- The same with indents, and with returns at the ends of lines. -/
def indented : Text :=
  "\t/** \r\n\t\t * Adds.\r\n* @returns \x7bnumber\x7d \r\n\t */\r\n\tfunction f(a, a) \x7b\x7d\r".toList

/-- The declaration in both. -/
def doubled : Candidate where
  name := "f".toList
  parameters := "a, a".toList
  result := []
  start := 38
  stop := 57

theorem layout_irrelevant_indented :
    SameLines (Text.upTo 38 tidy) (Text.upTo 48 indented) ∧
    commentLines (linesAbove (Text.upTo 48 indented)) =
      ["Adds.".toList, "@returns \x7bnumber\x7d".toList] ∧
    typeTags (linesAbove (Text.upTo 48 indented)) = { result := some "number".toList } ∧
    build indented { doubled with start := 48 } =
      .error ⟨"f".toList, .repeatedParameters ["a".toList], 48⟩ ∧
    SameLines tidy (respace (fun _ => ['\t']) (fun _ => ['\r']) tidy) := by
  obtain ⟨hlayout, hrespace⟩ := layout_irrelevant
  have hsame : SameLines (Text.upTo 38 tidy) (Text.upTo 48 indented) := by
    rw [Documentation.sameLines_iff]
    decide +kernel
  obtain ⟨hcomments, htags, hbuild⟩ := hlayout _ _ _ _ hsame
  refine ⟨hsame, hcomments.symm.trans ?_, htags.symm.trans ?_, (hbuild doubled).trans ?_, ?_⟩
  · decide +kernel
  · decide +kernel
  · decide +kernel
  · exact hrespace _ _ _ (fun _ => ⟨rfl, by decide⟩) (fun _ => ⟨rfl, by decide⟩)

end BlazorBridge.Extraction

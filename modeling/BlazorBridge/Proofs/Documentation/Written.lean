import BlazorBridge.Proofs.Documentation.Gate
import Mathlib.Data.List.Infix

/-!
# Written documentation blocks

A documentation block as it is usually written: an opening line, a line with a star for each line of its
content, and a closing line, each behind white space of its own. The lines above a declaration that such
a block stands in front of are the lines of the block, whatever stands above it (`linesAbove_before`).
The walk goes up through starred lines as far as they hold no opening mark (`blockLines_of_free`). The
walk over comments goes up through all of them (`commentRun_starred`).

Main statements: the block is found whole exactly if no line of its content holds an opening mark
(`found_whole_iff`). Otherwise it is cut at the last such mark, and lost if that mark begins no
documentation block. So a block that mentions the files of a directory can be lost
(`block_lost_to_opening_mark`). Its documentation lines are the lines of its content in any case
(`written_content_documented`).
-/

namespace BlazorBridge.Documentation

/-! ## Lines behind a star -/

/-- A line of content behind its star. -/
def starred (line : Text) : Text := "* ".toList ++ line

/-- A row of a block is trimmed to its content behind the star. -/
theorem trim_row {line : Text} (h : Text.IsSolid (starred line).reverse) :
    Text.trim (" * ".toList ++ line) = starred line := by
  have hblank : Text.isBlank [' '] = true := by decide
  have hsolid : Text.IsSolid (starred line) := Text.isSolid_cons.2 (by decide)
  have hsplit : " * ".toList ++ line = [' '] ++ starred line := rfl
  rw [hsplit, Text.trim_blank_append hblank, Text.trim_eq_self hsolid h]

/-- The star in front of a line does not make an opening mark. -/
theorem fromLast_starred (line : Text) :
    Text.fromLast openMark (starred line) = Text.fromLast openMark line := by
  have hstar (t : Text) : Text.startsWith openMark ('*' :: t) = false := rfl
  have hblank (t : Text) : Text.startsWith openMark (' ' :: t) = false := rfl
  change Text.fromLast openMark ('*' :: ' ' :: line) = _
  rw [Text.fromLast, Text.fromLast, hstar, hblank]
  cases Text.fromLast openMark line <;> rfl

theorem openMark_infix_starred_iff {line : Text} :
    openMark <:+: starred line ↔ openMark <:+: line := by
  rw [← not_iff_not, ← Text.fromLast_eq_none_iff, fromLast_starred, Text.fromLast_eq_none_iff]

/-- The walk goes up through lines without an opening mark. -/
theorem blockUp_append {inner : List Text} (h : ∀ line ∈ inner, ¬ openMark <:+: line)
    (above : List Text) : blockUp (inner ++ above) = (blockUp above).map (inner ++ ·) := by
  induction inner with
  | nil => simp
  | cons line inner ih =>
    have hnone := Text.fromLast_eq_none_iff.2 (h line (by simp))
    rw [List.cons_append, blockUp, hnone]
    dsimp only
    rw [ih fun l hl => h l (by simp [hl]), Option.map_map]
    rfl

/-- What is found of a block whose last lines hold no opening mark, by what is found above them. -/
theorem blockLines_of_free {lower : List Text} (h : ∀ line ∈ lower, ¬ openMark <:+: line)
    (above : List Text) :
    blockLines ("*/".toList :: (lower.map starred).reverse ++ above) =
      (blockUp above).map fun upper => upper.reverse ++ (lower.map starred ++ ["*/".toList]) := by
  have hfree : ∀ line ∈ "*/".toList :: (lower.map starred).reverse, ¬ openMark <:+: line := by
    intro line hline
    rcases List.mem_cons.1 hline with rfl | hline
    · decide
    · obtain ⟨raw, hraw, rfl⟩ := List.mem_map.1 (List.mem_reverse.1 hline)
      exact fun hopen => h raw hraw (openMark_infix_starred_iff.1 hopen)
  have hwalk : (("*/".toList :: (lower.map starred).reverse) ++ above).dropWhile
      (Text.startsWith lineMark) = "*/".toList :: (lower.map starred).reverse ++ above := rfl
  unfold blockLines
  rw [hwalk]
  have hclose : Text.endsWith closeMark "*/".toList = true := by decide
  simp only [List.cons_append, hclose, if_true]
  rw [← List.cons_append, blockUp_append hfree, Option.map_map]
  congr 1
  funext upper
  simp

/-! ## Comment lines -/

/-- The walk over comments goes up through starred lines to the line that opens the block. -/
theorem commentRun_starred {rows higher : List Text} (hrows : ∀ row ∈ rows, ∃ rest, row = '*' :: rest)
    (hstop : commentRun false higher = []) (inBlock : Bool) :
    commentRun inBlock (rows ++ "/**".toList :: higher) = rows ++ ["/**".toList] := by
  induction rows generalizing inBlock with
  | nil =>
    have hopen : isComment inBlock "/**".toList = true := by cases inBlock <;> decide
    have hleave : inBlockAbove inBlock "/**".toList = false := by cases inBlock <;> decide
    rw [List.nil_append, commentRun, hopen, hleave, hstop]
    rfl
  | cons row rows ih =>
    obtain ⟨rest, rfl⟩ := hrows row (by simp)
    have hcomment : isComment inBlock ('*' :: rest) = true := by
      have hmark : Text.startsWith ['*'] ('*' :: rest) = true := by simp [Text.startsWith]
      simp [isComment, hmark]
    rw [List.cons_append, commentRun, hcomment, ih fun row hrow => hrows row (by simp [hrow])]
    rfl

/-- Without its marks a starred line is what stands behind the star. -/
theorem content_starred {line : Text} (htrim : Text.trim line = line) (hclose : ¬ closeMark <:+ line) :
    content (starred line) = line := by
  have hline : Text.after? lineMark (starred line) = none := rfl
  have hinner : (starred line).dropWhile (fun c => c == '/' || c == '*') = ' ' :: line := rfl
  -- The blank behind the star keeps the marks that the line itself begins with.
  have hend : Text.endsWith closeMark (' ' :: line) = false := by
    rw [Bool.eq_false_iff, Ne, Text.endsWith_iff, List.suffix_cons_iff, not_or]
    exact ⟨by simp [closeMark], hclose⟩
  unfold content
  rw [hline]
  dsimp only
  rw [hinner, hend, if_neg (by simp), ← List.singleton_append, Text.trim_blank_append (by decide),
    htrim]

/-- The documentation lines that starred lines below a line that opens a block give. -/
theorem commentLines_starred {lines higher : List Text} (htrim : ∀ line ∈ lines, Text.trim line = line)
    (hne : ∀ line ∈ lines, line ≠ []) (hclose : ∀ line ∈ lines, ¬ closeMark <:+ line)
    (hstop : commentRun false higher = []) :
    commentLines ("*/".toList :: (lines.map starred).reverse ++ "/**".toList :: higher) = lines := by
  have hrows : ∀ row ∈ "*/".toList :: (lines.map starred).reverse, ∃ rest, row = '*' :: rest := by
    intro row hrow
    rcases List.mem_cons.1 hrow with rfl | hrow
    · exact ⟨['/'], rfl⟩
    · obtain ⟨line, -, rfl⟩ := List.mem_map.1 (List.mem_reverse.1 hrow)
      exact ⟨' ' :: line, rfl⟩
  have hcontent : (lines.map starred).map content = lines := by
    rw [List.map_map]
    conv_rhs => rw [← List.map_id lines]
    exact List.map_congr_left fun line hline =>
      content_starred (htrim line hline) (hclose line hline)
  have hmarks : content "*/".toList = [] ∧ content "/**".toList = [] := by decide
  have hkept : lines.filter (!·.isEmpty) = lines := by
    refine List.filter_eq_self.2 fun line hline => ?_
    simpa using hne line hline
  unfold commentLines
  rw [commentRun_starred hrows hstop, List.map_append, List.map_cons, List.map_reverse, hcontent,
    List.map_singleton, hmarks.1, hmarks.2]
  simp [List.filter_append, List.filter_reverse, hkept]

/-! ## Blocks -/

/-- White space that can stand in front of a line. -/
structure IsIndent (w : Text) : Prop where
  blank : Text.isBlank w = true
  single : '\n' ∉ w

/-- A line of content: it is trimmed and not blank, and does not close the block it stands in. -/
structure IsContent (line : Text) : Prop where
  trimmed : Text.trim line = line
  nonblank : line ≠ []
  single : '\n' ∉ line
  unclosed : ¬ closeMark <:+: line

/-- Content does not end with white space. -/
theorem IsContent.isSolid_starred {line : Text} (h : IsContent line) :
    Text.IsSolid (starred line).reverse := by
  have hline : Text.IsSolid line.reverse := by
    rw [← h.trimmed]
    exact Text.isSolid_reverse_trim line
  have hreverse : (starred line).reverse = line.reverse ++ " *".toList := List.reverse_append
  rw [hreverse]
  obtain ⟨c, u, hu⟩ := List.exists_cons_of_ne_nil (List.reverse_ne_nil_iff.2 h.nonblank)
  rw [hu] at hline ⊢
  exact Text.isSolid_cons.2 (Text.isSolid_cons.1 hline)

instance (w : Text) : Decidable (IsIndent w) :=
  decidable_of_iff (Text.isBlank w = true ∧ '\n' ∉ w) ⟨fun h => ⟨h.1, h.2⟩, fun h => ⟨h.1, h.2⟩⟩

instance (line : Text) : Decidable (IsContent line) :=
  decidable_of_iff (Text.trim line = line ∧ line ≠ [] ∧ '\n' ∉ line ∧ ¬ closeMark <:+: line)
    ⟨fun ⟨h₁, h₂, h₃, h₄⟩ => ⟨h₁, h₂, h₃, h₄⟩, fun ⟨h₁, h₂, h₃, h₄⟩ => ⟨h₁, h₂, h₃, h₄⟩⟩

/-! ## Lines in front of a declaration -/

/-- What stands on higher lines only adds lines above. -/
theorem linesAbove_append (above before : Text) :
    linesAbove (above ++ '\n' :: before) =
      linesAbove before ++ ((Text.lines above).map Text.trim).reverse := by
  have hlines : ((Text.lines (above ++ '\n' :: before)).map Text.trim).reverse =
      ((Text.lines before).map Text.trim).reverse ++ ((Text.lines above).map Text.trim).reverse := by
    rw [Text.lines, Text.split_append_sep rfl, List.map_append, List.reverse_append]
    rfl
  rw [linesAbove, linesAbove, hlines]
  -- The own line belongs to the lower text, which has at least one line.
  cases hown : ((Text.lines before).map Text.trim).reverse with
  | nil =>
    rw [List.reverse_eq_nil_iff, List.map_eq_nil_iff] at hown
    exact absurd hown (Text.split_ne_nil _ _)
  | cons own higher =>
    rw [List.cons_append]
    cases hempty : own.isEmpty with
    | true => simp [hempty]
    | false => simp [hempty]

/-- An empty line between two texts is a line above. -/
theorem linesAbove_append_empty (above before : Text) :
    linesAbove (above ++ "\n\n".toList ++ before) =
      linesAbove before ++ [] :: ((Text.lines above).map Text.trim).reverse := by
  have hsplit : above ++ "\n\n".toList ++ before = above ++ '\n' :: ([] ++ '\n' :: before) := by simp
  rw [hsplit, linesAbove_append, linesAbove_append, List.append_assoc]
  rfl

/-- Below whole lines, the white space in front of a declaration is no line of its own. -/
theorem linesAbove_ofLines_append {rows : List Text} (h : ∀ row ∈ rows, '\n' ∉ row) {own : Text}
    (hown : IsIndent own) :
    linesAbove (Text.ofLines rows ++ own) = (rows.map Text.trim).reverse := by
  have hlines : Text.lines (Text.ofLines rows ++ own) = rows ++ [own] := by
    rw [Text.lines_ofLines_append h, Text.lines, Text.split_of_not_mem hown.single]
  have hreverse : ((Text.lines (Text.ofLines rows ++ own)).map Text.trim).reverse =
      [] :: (rows.map Text.trim).reverse := by
    rw [hlines]
    simp [Text.trim_eq_nil_iff.2 hown.blank]
  rw [linesAbove, hreverse]
  rfl

/-- A documentation block: the lines of its content, the white space in front of its lines by their
numbers, and the white space in front of what it documents. -/
structure WrittenBlock where
  content : List Text
  indent : Nat → Text
  own : Text
  isContent : ∀ line ∈ content, IsContent line
  isIndent : ∀ n, IsIndent (indent n)
  isIndent_own : IsIndent own

namespace WrittenBlock

/-- The lines of a block. -/
def lines (b : WrittenBlock) : List Text :=
  ["/**".toList] ++ b.content.map starred ++ ["*/".toList]

/-- The text of a block, its lines without the white space in front of them. -/
def text (b : WrittenBlock) : Text := Text.join ['\n'] b.lines

/-- The lines of a block without their indents. All but the first stand one column further in. -/
def rows (b : WrittenBlock) : List Text :=
  ["/**".toList] ++ b.content.map (" * ".toList ++ ·) ++ [" */".toList]

/-- The lines of a block as they are written. -/
def indented (b : WrittenBlock) : List Text := b.rows.mapIdx fun n row => b.indent n ++ row

/-- The text in front of a declaration that a block documents. The block stands below an empty line, and
other text above that. -/
def before (b : WrittenBlock) (above : Text) : Text :=
  above ++ "\n\n".toList ++ (Text.ofLines b.indented ++ b.own)

/-! ## The lines above a declaration -/

theorem map_trim_rows (b : WrittenBlock) : b.rows.map Text.trim = b.lines := by
  have hcontent : (b.content.map (" * ".toList ++ ·)).map Text.trim = b.content.map starred := by
    rw [List.map_map]
    exact List.map_congr_left fun line hline => trim_row (b.isContent line hline).isSolid_starred
  rw [rows, List.map_append, List.map_append, hcontent]
  rfl

theorem not_mem_of_mem_rows {b : WrittenBlock} {row : Text} (h : row ∈ b.rows) : '\n' ∉ row := by
  simp only [rows, List.mem_append, List.mem_singleton, List.mem_map] at h
  rcases h with (rfl | ⟨line, hline, rfl⟩) | rfl
  · decide
  · exact List.not_mem_append (by decide) (b.isContent line hline).single
  · decide

/-- Indents are trimmed away. -/
theorem map_trim_indented (b : WrittenBlock) : b.indented.map Text.trim = b.lines := by
  have hindents : b.indented.map Text.trim = b.rows.map Text.trim := by
    refine List.ext_getElem? fun n => ?_
    simp [indented, Function.comp_def, Text.trim_blank_append (b.isIndent n).blank]
  rw [hindents, map_trim_rows]

theorem not_mem_of_mem_indented {b : WrittenBlock} {row : Text} (h : row ∈ b.indented) :
    '\n' ∉ row := by
  obtain ⟨n, hn, rfl⟩ := List.mem_mapIdx.1 h
  exact List.not_mem_append (b.isIndent n).single (not_mem_of_mem_rows (List.getElem_mem hn))

/-- The lines above a declaration that a block documents, the nearest first: those of the block, an empty
line, and those of the text above it. -/
theorem linesAbove_before_eq (b : WrittenBlock) (above : Text) :
    linesAbove (b.before above) =
      b.lines.reverse ++ [] :: ((Text.lines above).map Text.trim).reverse := by
  rw [before, linesAbove_append_empty,
    linesAbove_ofLines_append (fun row => not_mem_of_mem_indented) b.isIndent_own, map_trim_indented]

theorem linesAbove_before (b : WrittenBlock) (above : Text) :
    ∃ higher, linesAbove (b.before above) = b.lines.reverse ++ higher :=
  ⟨_, b.linesAbove_before_eq above⟩

/-! ## Opening marks -/

theorem blockLines_of_no_openMark {b : WrittenBlock} (h : ∀ line ∈ b.content, ¬ openMark <:+: line)
    (higher : List Text) : blockLines (b.lines.reverse ++ higher) = some b.lines := by
  have hsplit : b.lines.reverse ++ higher =
      "*/".toList :: (b.content.map starred).reverse ++ "/**".toList :: higher := by
    simp [lines]
  have hopen : blockUp ("/**".toList :: higher) = some ["/**".toList] := rfl
  rw [hsplit, blockLines_of_free h, hopen]
  rfl

/-- A block is cut at the last opening mark in its content. -/
theorem blockLines_of_openMark {b : WrittenBlock} {upper lower : List Text} {line top : Text}
    (hcontent : b.content = upper ++ line :: lower) (hlower : ∀ l ∈ lower, ¬ openMark <:+: l)
    (htop : Text.IsLastMark openMark line top) (higher : List Text) :
    blockLines (b.lines.reverse ++ higher) =
      if docMark <+: top then some (top :: lower.map starred ++ ["*/".toList]) else none := by
  have hsplit : b.lines.reverse ++ higher = "*/".toList :: (lower.map starred).reverse ++
      (starred line :: ((upper.map starred).reverse ++ "/**".toList :: higher)) := by
    simp [lines, hcontent]
  have hfrom : Text.fromLast openMark (starred line) = some top := by
    rw [fromLast_starred, Text.fromLast_eq_some_iff.2 htop]
  rw [hsplit, blockLines_of_free hlower, blockUp, hfrom]
  by_cases hdoc : docMark <+: top
  · simp [Text.startsWith_iff.2 hdoc, hdoc]
  · have hnot : Text.startsWith docMark top = false := by
      rw [Bool.eq_false_iff, Ne, Text.startsWith_iff]
      exact hdoc
    simp [hnot, hdoc]

/-- What is found whole holds no opening mark below its first line. -/
theorem not_openMark_of_blockLines {b : WrittenBlock} {higher : List Text}
    (h : blockLines (b.lines.reverse ++ higher) = some b.lines) :
    ∀ line ∈ b.content, ¬ openMark <:+: line := by
  obtain ⟨last, rest, -, -, hup⟩ := exists_blockUp_of_blockLines h
  obtain ⟨inner, opening, -, top, -, hinner, -, -, hlines⟩ := blockUp_eq_some_iff.1 hup
  have hreverse : b.lines.reverse =
      ("*/".toList :: (b.content.map starred).reverse) ++ ["/**".toList] := by
    simp [lines]
  obtain ⟨hinnerEq, -⟩ := List.append_inj' (hreverse.symm.trans hlines) rfl
  intro line hline hopen
  refine hinner (starred line) ?_ (openMark_infix_starred_iff.2 hopen)
  rw [← hinnerEq]
  exact List.mem_cons_of_mem _ (List.mem_reverse.2 (List.mem_map_of_mem hline))

/-- **A block is found whole exactly if no line of its content holds an opening mark.** Then it states
the types that its text states. Otherwise it is cut at the last opening mark in its content: what begins
there is found if the mark is that of a documentation block, and nothing if it is not. -/
theorem found_whole_iff (b : WrittenBlock) (above t : Text) (offset : Int)
    (h : Text.upTo offset t = b.before above) :
    (blockLines (linesAbove (Text.upTo offset t)) = some b.lines ↔
      ∀ line ∈ b.content, ¬ openMark <:+: line) ∧
    ((∀ line ∈ b.content, ¬ openMark <:+: line) →
      typeTags (linesAbove (Text.upTo offset t)) = TypeTags.ofText b.text) ∧
    ∀ upper line lower top, b.content = upper ++ line :: lower →
      (∀ l ∈ lower, ¬ openMark <:+: l) → Text.IsLastMark openMark line top →
      blockLines (linesAbove (Text.upTo offset t)) =
        if docMark <+: top then some (top :: lower.map starred ++ ["*/".toList]) else none := by
  obtain ⟨higher, hlines⟩ := b.linesAbove_before above
  rw [h, hlines]
  refine ⟨⟨not_openMark_of_blockLines, fun hfree => blockLines_of_no_openMark hfree higher⟩,
    fun hfree => ?_, fun upper line lower top hcontent hlower htop =>
      blockLines_of_openMark hcontent hlower htop higher⟩
  rw [typeTags, blockLines_of_no_openMark hfree]
  rfl

/-- A block all of whose lines stand behind the same white space. -/
def uniform (w : Text) (hw : IsIndent w) (content : List Text) (h : ∀ line ∈ content, IsContent line) :
    WrittenBlock where
  content := content
  indent _ := w
  own := w
  isContent := h
  isIndent _ := hw
  isIndent_own := hw

/-- A declaration two columns in, with a block of two lines. -/
def doubled : List Text :=
  ["let x;".toList, [], "  /**".toList, "   * Twice or * / over.".toList,
    "   * @returns \x7bnumber\x7d".toList, "   */".toList, "  function f() \x7b\x7d".toList]

theorem found_whole_doubled :
    ∃ b : WrittenBlock, b.content = ["Twice or * / over.".toList, "@returns \x7bnumber\x7d".toList] ∧
      Text.upTo 69 (Text.join ['\n'] doubled) = b.before "let x;".toList ∧
      blockLines (linesAbove (Text.upTo 69 (Text.join ['\n'] doubled))) = some b.lines ∧
      typeTags (linesAbove (Text.upTo 69 (Text.join ['\n'] doubled))) =
        { result := some "number".toList } := by
  let b := uniform "  ".toList (by decide +kernel)
    ["Twice or * / over.".toList, "@returns \x7bnumber\x7d".toList] (by decide +kernel)
  have hbefore : Text.upTo 69 (Text.join ['\n'] doubled) = b.before "let x;".toList := by
    decide +kernel
  have hfree : ∀ line ∈ b.content, ¬ openMark <:+: line := by decide +kernel
  obtain ⟨hwhole, htags, -⟩ := found_whole_iff b "let x;".toList (Text.join ['\n'] doubled) 69 hbefore
  refine ⟨b, rfl, hbefore, hwhole.2 hfree, ?_⟩
  rw [htags hfree]
  decide +kernel

/-- A block that mentions the files of a directory, and what it documents. -/
def listing : List Text :=
  [[], [], "/**".toList, " * See src/*.js".toList, " * @returns \x7bnumber\x7d".toList, " */".toList,
    "function f() \x7b\x7d".toList]

/-- A block is lost to an opening mark in its content, though its text states a type. -/
theorem block_lost_to_opening_mark :
    ¬ ∀ (b : WrittenBlock) (above t : Text) (offset : Int), Text.upTo offset t = b.before above →
      typeTags (linesAbove (Text.upTo offset t)) = TypeTags.ofText b.text := by
  intro h
  let b := uniform [] (by decide +kernel) ["See src/*.js".toList, "@returns \x7bnumber\x7d".toList]
    (by decide +kernel)
  have hfound := h b [] (Text.join ['\n'] listing) 47 (by decide +kernel)
  have hlost : typeTags (linesAbove (Text.upTo 47 (Text.join ['\n'] listing))) = {} := by
    decide +kernel
  have hstated : TypeTags.ofText b.text = { result := some "number".toList } := by decide +kernel
  rw [hlost, hstated] at hfound
  exact absurd hfound (by decide)

/-! ## The content as documentation -/

/-- **The content of a block is its documentation.** Whatever stands above the block, and however its
lines are indented, the documentation lines are the lines of its content, in order and as they were
written, with the marks that they hold. -/
theorem written_content_documented (b : WrittenBlock) (above t : Text) (offset : Int)
    (h : Text.upTo offset t = b.before above) :
    commentLines (linesAbove (Text.upTo offset t)) = b.content := by
  have hsplit : linesAbove (b.before above) = "*/".toList :: (b.content.map starred).reverse ++
      "/**".toList :: [] :: ((Text.lines above).map Text.trim).reverse := by
    rw [b.linesAbove_before_eq above]
    simp [lines]
  rw [h, hsplit]
  -- The empty line above the block stops the walk.
  refine commentLines_starred ?_ ?_ ?_ rfl
  · exact fun line hline => (b.isContent line hline).trimmed
  · exact fun line hline => (b.isContent line hline).nonblank
  · exact fun line hline hclose => (b.isContent line hline).unclosed hclose.isInfix

/-- A declaration below a block whose content is made of marks and code. -/
def marked : List Text :=
  ["// kept apart".toList, [], "\t/**".toList, "\t * // no line comment".toList,
    "\t * /* nor a block".toList, "\t * **".toList, "\t * let x = 1;".toList, "\t */".toList,
    "\tfunction f() \x7b\x7d".toList]

theorem marked_content_documented :
    ∃ b : WrittenBlock, b.content = ["// no line comment".toList, "/* nor a block".toList, "**".toList,
        "let x = 1;".toList] ∧
      Text.upTo 90 (Text.join ['\n'] marked) = b.before "// kept apart".toList ∧
      commentLines (linesAbove (Text.upTo 90 (Text.join ['\n'] marked))) = b.content := by
  let b := uniform "\t".toList (by decide +kernel)
    ["// no line comment".toList, "/* nor a block".toList, "**".toList, "let x = 1;".toList]
    (by decide +kernel)
  have hbefore : Text.upTo 90 (Text.join ['\n'] marked) = b.before "// kept apart".toList := by
    decide +kernel
  exact ⟨b, rfl, hbefore, written_content_documented b _ _ _ hbefore⟩

end WrittenBlock

end BlazorBridge.Documentation

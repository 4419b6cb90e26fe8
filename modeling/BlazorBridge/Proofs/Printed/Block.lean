import BlazorBridge.Proofs.Documentation.TaggedText
import BlazorBridge.Proofs.Documentation.Written
import BlazorBridge.Proofs.Printed.Specification

/-!
# Reading a printed documentation block

The lines in front of a printed function end with its documentation block, and what stands above the
block is an empty line or nothing. Main statements: the comment lines that touch the function are its
tags (`commentLines_printed`), and its block states the types of the specification
(`typeTags_printed`).
-/

namespace BlazorBridge.FunctionSpec

open BlazorBridge.Text (IsName IsSolid)

/-! ## Characters of a tag -/

/-- Characters that stand in no tag. -/
def absent : List Char := ['\n', '(', '/', '*']

theorem mem_absent {c : Char} : c ∈ absent ↔ c = '\n' ∨ c = '(' ∨ c = '/' ∨ c = '*' := by
  simp [absent]

theorem not_mem_typeText (r : TypeText) {c : Char} (hc : c ∈ absent) : c ∉ r.text := by
  refine r.plain c ?_
  rcases mem_absent.1 hc with rfl | rfl | rfl | rfl <;> simp

theorem not_mem_parameterTag {e : Text × TypeText} (he : IsName e.1) {c : Char} (hc : c ∈ absent) :
    c ∉ parameterTag e := by
  have hfixed : c ∉ "@param \x7b".toList ∧ c ∉ "\x7d ".toList ∧ isWord c = false := by
    rcases mem_absent.1 hc with rfl | rfl | rfl | rfl <;> decide
  obtain ⟨h₁, h₂, hword⟩ := hfixed
  unfold parameterTag
  simp only [List.mem_append, not_or]
  exact ⟨⟨⟨h₁, not_mem_typeText e.2 hc⟩, h₂⟩, he.not_mem hword⟩

theorem not_mem_resultTag (r : TypeText) {c : Char} (hc : c ∈ absent) : c ∉ resultTag r := by
  have hfixed : c ∉ "@returns \x7b".toList ∧ c ∉ "\x7d".toList := by
    rcases mem_absent.1 hc with rfl | rfl | rfl | rfl <;> decide
  obtain ⟨h₁, h₂⟩ := hfixed
  unfold resultTag
  simp only [List.mem_append, not_or]
  exact ⟨⟨h₁, not_mem_typeText r hc⟩, h₂⟩

theorem isName_of_mem_types (s : FunctionSpec) {e : Text × TypeText} (he : e ∈ s.types) :
    IsName e.1 := s.areNames e.1 (s.assignedOwn e he)

theorem mem_tags {s : FunctionSpec} {tag : Text} :
    tag ∈ s.tags ↔
      (∃ e ∈ s.types, parameterTag e = tag) ∨ ∃ r, s.result = some r ∧ resultTag r = tag := by
  simp [tags]

theorem not_mem_tag {s : FunctionSpec} {tag : Text} (h : tag ∈ s.tags) {c : Char}
    (hc : c ∈ absent) : c ∉ tag := by
  rcases mem_tags.1 h with ⟨e, he, rfl⟩ | ⟨r, -, rfl⟩
  · exact not_mem_parameterTag (s.isName_of_mem_types he) hc
  · exact not_mem_resultTag r hc

theorem parameterTag_eq_cons (e : Text × TypeText) :
    parameterTag e = '@' :: ("param \x7b".toList ++ e.2.text ++ "\x7d ".toList ++ e.1) := by
  unfold parameterTag
  simp

theorem resultTag_eq_cons (r : TypeText) :
    resultTag r = '@' :: ("returns \x7b".toList ++ r.text ++ "\x7d".toList) := by
  unfold resultTag
  simp

/-- A tag begins with an at sign, and does not end with white space. -/
theorem tag_ends {s : FunctionSpec} {tag : Text} (h : tag ∈ s.tags) :
    (∃ u, tag = '@' :: u) ∧ ∀ t, IsSolid (t ++ tag).reverse := by
  rcases mem_tags.1 h with ⟨e, he, rfl⟩ | ⟨r, -, rfl⟩
  · refine ⟨⟨_, parameterTag_eq_cons e⟩, fun t => ?_⟩
    unfold parameterTag
    rw [← List.append_assoc, List.reverse_append]
    exact (s.isName_of_mem_types he).reverse.isSolid_append _
  · refine ⟨⟨_, resultTag_eq_cons r⟩, fun t => ?_⟩
    unfold resultTag
    rw [← List.append_assoc, List.reverse_append]
    exact Text.isSolid_cons.2 (by decide)

/-! ## The lines in front of a function -/

/-- The lines of the block without the white space around them. -/
theorem map_trim_block (s : FunctionSpec) :
    s.block.map Text.trim = ["/**".toList] ++ s.tags.map ("* ".toList ++ ·) ++ ["*/".toList] := by
  have htags : (s.tags.map (" * ".toList ++ ·)).map Text.trim = s.tags.map ("* ".toList ++ ·) := by
    rw [List.map_map]
    exact List.map_congr_left fun tag htag => Documentation.trim_row ((tag_ends htag).2 _)
  rw [block, List.map_append, List.map_append, htags]
  rfl

theorem not_mem_block {s : FunctionSpec} {row : Text} (h : row ∈ s.block) : '\n' ∉ row := by
  simp only [block, List.mem_append, List.mem_singleton, List.mem_map] at h
  rcases h with (rfl | ⟨tag, htag, rfl⟩) | rfl
  · decide
  · rw [List.mem_append, not_or]
    exact ⟨by decide, not_mem_tag htag (by decide)⟩
  · decide

/-- What stands above the block of a printed function: nothing, or text that ends with an empty
line. -/
def Clear (above : Text) : Prop := above = [] ∨ "\n\n".toList <:+ above

/-- No comment reaches up into these lines. -/
def Stops (higher : List Text) : Prop := higher = [] ∨ ∃ more, higher = [] :: more

/-- The lines of the block as they are met from below, with higher lines above them. -/
def upward (s : FunctionSpec) (higher : List Text) : List Text :=
  "*/".toList :: (s.tags.map ("* ".toList ++ ·)).reverse ++ "/**".toList :: higher

/-- The lines in front of a printed function are those of its block, and others above them. -/
theorem linesAbove_printed (s : FunctionSpec) {above : Text} (h : Clear above) :
    ∃ higher, Stops higher ∧
      Documentation.linesAbove (above ++ Text.ofLines s.block) = s.upward higher := by
  have hblock : Documentation.linesAbove (Text.ofLines s.block) = s.upward [] := by
    have hempty : Documentation.IsIndent [] := ⟨rfl, List.not_mem_nil⟩
    have hlines := Documentation.linesAbove_ofLines_append (fun row => not_mem_block (s := s)) hempty
    rw [List.append_nil, map_trim_block] at hlines
    simpa [upward] using hlines
  rcases h with rfl | ⟨a, rfl⟩
  · exact ⟨[], Or.inl rfl, hblock⟩
  · refine ⟨[] :: ((Text.lines a).map Text.trim).reverse, Or.inr ⟨_, rfl⟩, ?_⟩
    rw [Documentation.linesAbove_append_empty, hblock]
    simp [upward]

/-! ## The comment lines -/

/-- The documentation of a printed function is its tags. -/
theorem commentLines_printed (s : FunctionSpec) {higher : List Text} (h : Stops higher) :
    Documentation.commentLines (s.upward higher) = s.tags := by
  have hstop : Documentation.commentRun false higher = [] := by
    rcases h with rfl | ⟨more, rfl⟩ <;> rfl
  refine Documentation.commentLines_starred ?_ ?_ ?_ hstop
  · intro tag htag
    obtain ⟨u, rfl⟩ := (tag_ends htag).1
    exact Text.trim_eq_self (Text.isSolid_cons.2 (by decide)) ((tag_ends htag).2 [])
  · intro tag htag
    obtain ⟨u, rfl⟩ := (tag_ends htag).1
    simp
  · intro tag htag hclose
    exact not_mem_tag htag (by decide) (hclose.subset (by decide : '/' ∈ Documentation.closeMark))

/-! ## The types -/

/-- What stands in a block in front of each tag. -/
def margin : Text := "\n* ".toList

theorem isGap_space : Text.IsGap [' '] := by decide

theorem parameterTag_form {e : Text × TypeText} (he : IsName e.1) :
    TypeTags.ParameterTag e.1 e.2.text (parameterTag e) := by
  have hform := TypeTags.ParameterTag.intro isGap_space e.2.text_ne_nil
    (e.2.plain _ (by decide)) isGap_space he
  have htag : parameterTag e =
      ["@param".toList, [' '], ['\x7b'], e.2.text, ['\x7d'], [' '], e.1].flatten := by
    unfold parameterTag
    simp
  rw [htag]
  exact hform

theorem resultTag_form (r : TypeText) : TypeTags.ResultTag r.text (resultTag r) := by
  have hform := TypeTags.ResultTag.intro (Or.inr rfl) isGap_space r.text_ne_nil
    (r.plain _ (by decide))
  have htag : resultTag r =
      ["@return".toList, ['s'], [' '], ['\x7b'], r.text, ['\x7d']].flatten := by
    unfold resultTag
    simp
  rw [htag]
  exact hform

/-- Parameter tags in front of a text state one type each. -/
theorem scan_parameterTags {types : List (Text × TypeText)} (hnames : ∀ e ∈ types, IsName e.1)
    {rest : Text} (hrest : Text.startsWithWord rest = false) :
    Place.scan (TypeTags.atPlace TypeTags.parameterTag?)
        (types.flatMap (margin ++ parameterTag ·) ++ rest) =
      types.map (fun e => (e.1, Text.trim e.2.text)) ++
        Place.scan (TypeTags.atPlace TypeTags.parameterTag?) rest := by
  induction types with
  | nil => rfl
  | cons e types ih =>
    have hnext : Text.startsWithWord (types.flatMap (margin ++ parameterTag ·) ++ rest) = false := by
      cases types with
      | nil => exact hrest
      | cons e' types => exact (by decide : isWord '\n' = false)
    rw [List.flatMap_cons, List.append_assoc, List.append_assoc,
      TypeTags.scan_plain_append TypeTags.atSign_parameterTag? (by decide),
      (parameterTag_form (hnames e (by simp))).scan_parameters hnext,
      ih fun e he => hnames e (by simp [he])]
    rfl

/-- Parameter tags in front of a text state no result. -/
theorem scan_resultTag_parameters {types : List (Text × TypeText)}
    (hnames : ∀ e ∈ types, IsName e.1) (rest : Text) :
    Place.scan (TypeTags.atPlace TypeTags.resultTag?)
        (types.flatMap (margin ++ parameterTag ·) ++ rest) =
      Place.scan (TypeTags.atPlace TypeTags.resultTag?) rest := by
  induction types with
  | nil => rfl
  | cons e types ih =>
    rw [List.flatMap_cons, List.append_assoc, List.append_assoc,
      TypeTags.scan_plain_append TypeTags.atSign_resultTag? (by decide),
      (parameterTag_form (hnames e (by simp))).scan_results (e.2.plain _ (by decide)),
      ih fun e he => hnames e (by simp [he])]

/-- What stands in a block behind its last tag. -/
def ending : Text := "\n*/".toList

theorem scan_ending {α : Type} {read : Text → Option (α × Text)} (h : TypeTags.AtSign read) :
    Place.scan (TypeTags.atPlace read) ending = [] := by
  have hat : '@' ∉ ending := by decide
  have hscan := TypeTags.scan_plain_append h hat []
  rwa [List.append_nil] at hscan

theorem scan_parameterTag_result (result : Option TypeText) :
    Place.scan (TypeTags.atPlace TypeTags.parameterTag?)
      (result.toList.flatMap (margin ++ resultTag ·) ++ ending) = [] := by
  cases result with
  | none => exact scan_ending TypeTags.atSign_parameterTag?
  | some r =>
    rw [Option.toList_some, List.flatMap_singleton, List.append_assoc,
      TypeTags.scan_plain_append TypeTags.atSign_parameterTag? (by decide),
      (resultTag_form r).scan_parameters (r.plain _ (by decide)),
      scan_ending TypeTags.atSign_parameterTag?]

theorem scan_resultTag_result (result : Option TypeText) :
    Place.scan (TypeTags.atPlace TypeTags.resultTag?)
      (result.toList.flatMap (margin ++ resultTag ·) ++ ending) =
        result.toList.map (fun r => Text.trim r.text) := by
  cases result with
  | none => exact scan_ending TypeTags.atSign_resultTag?
  | some r =>
    rw [Option.toList_some, List.flatMap_singleton, List.append_assoc,
      TypeTags.scan_plain_append TypeTags.atSign_resultTag? (by decide),
      (resultTag_form r).scan_results, scan_ending TypeTags.atSign_resultTag?]
    rfl

/-- The types that a specification states. -/
def stated (s : FunctionSpec) : TypeTags where
  parameters := s.types.map fun e => (e.1, Text.trim e.2.text)
  result := s.result.map fun r => Text.trim r.text

theorem blockLines_printed (s : FunctionSpec) (higher : List Text) :
    Documentation.blockLines (s.upward higher) =
      some ("/**".toList :: (s.tags.map ("* ".toList ++ ·) ++ ["*/".toList])) := by
  have hfree : ∀ tag ∈ s.tags, ¬ Documentation.openMark <:+: tag := by
    intro tag htag hopen
    exact not_mem_tag htag (by decide) (hopen.subset (by decide : '/' ∈ Documentation.openMark))
  have hopening : Documentation.blockUp ("/**".toList :: higher) = some ["/**".toList] := rfl
  have hfound := Documentation.blockLines_of_free hfree ("/**".toList :: higher)
  rw [hopening] at hfound
  exact hfound

/-- The block of a printed function states the types of its specification. -/
theorem typeTags_printed (s : FunctionSpec) (higher : List Text) :
    Documentation.typeTags (s.upward higher) = s.stated := by
  have htext : Text.join ['\n'] ("/**".toList :: (s.tags.map ("* ".toList ++ ·) ++ ["*/".toList])) =
      "/**".toList ++ (s.types.flatMap (margin ++ parameterTag ·) ++
        (s.result.toList.flatMap (margin ++ resultTag ·) ++ ending)) := by
    rw [Text.join_cons, List.flatMap_append, List.flatMap_map, tags, List.flatMap_append,
      List.flatMap_map, List.flatMap_map, List.append_assoc]
    rfl
  have hrest : Text.startsWithWord
      (s.result.toList.flatMap (margin ++ resultTag ·) ++ ending) = false := by
    have hword : isWord '\n' = false := by decide
    cases s.result with
    | none => exact hword
    | some r => exact hword
  have hnames : ∀ e ∈ s.types, IsName e.1 := fun e he => s.isName_of_mem_types he
  unfold Documentation.typeTags
  rw [blockLines_printed]
  dsimp only
  unfold TypeTags.ofText
  rw [htext, TypeTags.scan_plain_append TypeTags.atSign_parameterTag? (by decide),
    TypeTags.scan_plain_append TypeTags.atSign_resultTag? (by decide),
    scan_parameterTags hnames hrest, scan_parameterTag_result, List.append_nil,
    scan_resultTag_parameters hnames, scan_resultTag_result]
  cases hresult : s.result with
  | none => rw [stated, hresult]; rfl
  | some r => rw [stated, hresult]; rfl

end BlazorBridge.FunctionSpec

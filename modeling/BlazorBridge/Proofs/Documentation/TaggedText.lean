import BlazorBridge.Proofs.Documentation.TagGrammar

/-!
# Tagged texts

A tagged text is made of parts: prose without at signs, and tags whose types hold none. Reading goes
through it twice, once for each kind of tag, and each pass takes its own tags and nothing of the other
parts (`scan_textOf`).

Main statement (`tags_read_back`): the type read for a parameter is that of its last tag, and the type
read for the result is that of the first result tag.
-/

namespace BlazorBridge.TypeTags

/-! ## Single tags -/

/-- A parameter tag begins with an at sign, and holds no other if its type does not. -/
theorem ParameterTag.eq_cons {name body written : Text} (h : ParameterTag name body written)
    (hplain : '@' ∉ body) : ∃ seg, written = '@' :: 'p' :: seg ∧ '@' ∉ 'p' :: seg := by
  cases h with
  | @intro gap₁ gap₂ hgap₁ _ _ hgap₂ hname =>
    refine ⟨["aram".toList, gap₁, ['{'], body, ['}'], gap₂, name].flatten, rfl, ?_⟩
    have h₁ := hgap₁.not_mem (c := '@') (by decide)
    have h₂ := hgap₂.not_mem (c := '@') (by decide)
    have h₃ := hname.not_mem (c := '@') (by decide)
    simp [hplain, h₁, h₂, h₃]

theorem ResultTag.eq_cons {body written : Text} (h : ResultTag body written) (hplain : '@' ∉ body) :
    ∃ seg, written = '@' :: 'r' :: seg ∧ '@' ∉ 'r' :: seg := by
  cases h with
  | @intro ending gap hends hgap _ _ =>
    refine ⟨["eturn".toList, ending, gap, ['{'], body, ['}']].flatten, rfl, ?_⟩
    have h₁ := hgap.not_mem (c := '@') (by decide)
    have h₂ : '@' ∉ ending := by
      rcases hends with rfl | rfl <;> decide
    simp [hplain, h₁, h₂]

/-- A parameter tag states the type of its parameter, and the name ends where no word goes on. -/
theorem ParameterTag.scan_parameters {name body written rest : Text}
    (h : ParameterTag name body written) (hrest : Text.startsWithWord rest = false) :
    Place.scan (atPlace parameterTag?) (written ++ rest) =
      (name, Text.trim body) :: Place.scan (atPlace parameterTag?) rest := by
  have hread := parameterTag?_eq_some_iff.2 ⟨body, written, h, rfl, rfl, hrest⟩
  have hne : written ≠ [] := by
    cases h with
    | intro => simp
  exact scan_tag_append hne hread

theorem ParameterTag.scan_results {name body written : Text} (h : ParameterTag name body written)
    (hplain : '@' ∉ body) (rest : Text) :
    Place.scan (atPlace resultTag?) (written ++ rest) = Place.scan (atPlace resultTag?) rest := by
  obtain ⟨seg, rfl, hseg⟩ := h.eq_cons hplain
  exact scan_other_append atSign_resultTag? hseg rfl

theorem ResultTag.scan_parameters {body written : Text} (h : ResultTag body written)
    (hplain : '@' ∉ body) (rest : Text) :
    Place.scan (atPlace parameterTag?) (written ++ rest) =
      Place.scan (atPlace parameterTag?) rest := by
  obtain ⟨seg, rfl, hseg⟩ := h.eq_cons hplain
  exact scan_other_append atSign_parameterTag? hseg rfl

/-- A result tag states the type of the result. -/
theorem ResultTag.scan_results {body written : Text} (h : ResultTag body written) (rest : Text) :
    Place.scan (atPlace resultTag?) (written ++ rest) =
      Text.trim body :: Place.scan (atPlace resultTag?) rest := by
  have hread : resultTag? (written ++ rest) = some (Text.trim body, rest) :=
    resultTag?_eq_some_iff.2 ⟨body, written, h, rfl, rfl⟩
  have hne : written ≠ [] := by
    cases h with
    | intro => simp
  exact scan_tag_append hne hread

/-! ## Parts -/

/-- A part of a tagged text: prose without at signs, or a tag whose type holds none. -/
inductive TextPart where
  | prose (written : Text) (plain : '@' ∉ written)
  | parameter (name body written : Text) (form : ParameterTag name body written) (plain : '@' ∉ body)
  | result (body written : Text) (form : ResultTag body written) (plain : '@' ∉ body)

namespace TextPart

/-- The text of a part. -/
def written : TextPart → Text
  | prose written _ => written
  | parameter _ _ written _ _ => written
  | result _ written _ _ => written

/-- The name and the type in a parameter tag. -/
def parameter? : TextPart → Option (Text × Text)
  | parameter name body _ _ _ => some (name, Text.trim body)
  | _ => none

/-- The type in a result tag. -/
def result? : TextPart → Option Text
  | result body _ _ _ => some (Text.trim body)
  | _ => none

/-- A pass for parameters takes the tag of a part if it is a parameter tag. -/
theorem scan_parameters (part : TextPart) {rest : Text}
    (h : part.parameter?.isSome = true → Text.startsWithWord rest = false) :
    Place.scan (atPlace parameterTag?) (part.written ++ rest) =
      part.parameter?.toList ++ Place.scan (atPlace parameterTag?) rest := by
  cases part with
  | prose written plain => exact scan_plain_append atSign_parameterTag? plain rest
  | parameter name body written form plain => exact form.scan_parameters (h rfl)
  | result body written form plain => exact form.scan_parameters plain rest

/-- A pass for results takes the tag of a part if it is a result tag. -/
theorem scan_results (part : TextPart) (rest : Text) :
    Place.scan (atPlace resultTag?) (part.written ++ rest) =
      part.result?.toList ++ Place.scan (atPlace resultTag?) rest := by
  cases part with
  | prose written plain => exact scan_plain_append atSign_resultTag? plain rest
  | parameter name body written form plain => exact form.scan_results plain rest
  | result body written form plain => exact form.scan_results rest

end TextPart

/-! ## Texts -/

/-- The text of parts one after another. -/
def textOf (parts : List TextPart) : Text := parts.flatMap TextPart.written

/-- No name in a tag goes on in what follows the tag. -/
def NamesEnd : List TextPart → Prop
  | [] => True
  | part :: parts =>
    (part.parameter?.isSome = true → Text.startsWithWord (textOf parts) = false) ∧ NamesEnd parts

/-- Prose and tags in any order, with names that end where their tags do. -/
structure TaggedText where
  parts : List TextPart
  namesEnd : NamesEnd parts

/-- A tagged text as it is written. -/
def TaggedText.written (t : TaggedText) : Text := textOf t.parts

/-- Each pass through a tagged text takes the tags of its kind, in order. -/
theorem scan_textOf {parts : List TextPart} (h : NamesEnd parts) :
    Place.scan (atPlace parameterTag?) (textOf parts) = parts.filterMap TextPart.parameter? ∧
      Place.scan (atPlace resultTag?) (textOf parts) = parts.filterMap TextPart.result? := by
  induction parts with
  | nil => exact ⟨rfl, rfl⟩
  | cons part parts ih =>
    obtain ⟨hname, hnames⟩ := h
    obtain ⟨hparameters, hresults⟩ := ih hnames
    have htext : textOf (part :: parts) = part.written ++ textOf parts := List.flatMap_cons
    rw [htext, part.scan_parameters hname, part.scan_results, hparameters, hresults,
      List.filterMap_cons, List.filterMap_cons]
    constructor
    · cases part.parameter? <;> rfl
    · cases part.result? <;> rfl

/-! ## What is read -/

/-- The type stated for a parameter is that of its last tag. -/
theorem parameter?_eq_some_iff {tags : TypeTags} {name type : Text} :
    tags.parameter? name = some type ↔
      ∃ before after, tags.parameters = before ++ (name, type) :: after ∧
        ∀ e ∈ after, e.1 ≠ name := by
  rw [parameter?, List.lookup_eq_some_iff]
  constructor
  · rintro ⟨after, before, h, hafter⟩
    refine ⟨before.reverse, after.reverse, by rw [List.reverse_eq_iff.1 h]; simp, ?_⟩
    intro e he heq
    simpa [heq] using hafter e (List.mem_reverse.1 he)
  · rintro ⟨before, after, h, hafter⟩
    refine ⟨after.reverse, before.reverse, by rw [h]; simp, ?_⟩
    intro e he
    simpa using Ne.symm (hafter e (List.mem_reverse.1 he))

section

variable (t : TaggedText)

/-- A parameter has the type of the last part that is a tag for it. -/
theorem TaggedText.parameter?_eq_some_iff {name type : Text} :
    (ofText t.written).parameter? name = some type ↔
      ∃ before part after, t.parts = before ++ part :: after ∧ part.parameter? = some (name, type) ∧
        ∀ later ∈ after, ∀ other, later.parameter? ≠ some (name, other) := by
  have hlist : (ofText t.written).parameters = t.parts.filterMap TextPart.parameter? :=
    (scan_textOf t.namesEnd).1
  rw [TypeTags.parameter?_eq_some_iff, hlist]
  constructor
  · rintro ⟨found, later, hsplit, hlater⟩
    obtain ⟨before, rest, hparts, -, hrest⟩ := List.filterMap_eq_append_iff.1 hsplit
    obtain ⟨skipped, part, after, rfl, -, hpart, rfl⟩ := List.filterMap_eq_cons_iff.1 hrest
    refine ⟨before ++ skipped, part, after, by rw [hparts]; simp, hpart, ?_⟩
    intro other hother type' heq
    exact hlater (name, type') (List.mem_filterMap.2 ⟨other, hother, heq⟩) rfl
  · rintro ⟨before, part, after, hparts, hpart, hlater⟩
    refine ⟨before.filterMap TextPart.parameter?, after.filterMap TextPart.parameter?, ?_, ?_⟩
    · rw [hparts, List.filterMap_append, List.filterMap_cons, hpart]
    · rintro ⟨name', type'⟩ he rfl
      obtain ⟨other, hother, heq⟩ := List.mem_filterMap.1 he
      exact hlater other hother type' heq

/-- The result has the type of the first part that is a result tag. -/
theorem TaggedText.result_eq_some_iff {type : Text} :
    (ofText t.written).result = some type ↔
      ∃ before part after, t.parts = before ++ part :: after ∧ part.result? = some type ∧
        ∀ earlier ∈ before, earlier.result? = none := by
  have hlist : (ofText t.written).result = (t.parts.filterMap TextPart.result?).head? :=
    congrArg List.head? (scan_textOf t.namesEnd).2
  rw [hlist, List.head?_eq_some_iff]
  constructor
  · rintro ⟨later, hsplit⟩
    obtain ⟨before, part, after, hparts, hbefore, hpart, -⟩ := List.filterMap_eq_cons_iff.1 hsplit
    exact ⟨before, part, after, hparts, hpart, hbefore⟩
  · rintro ⟨before, part, after, hparts, hpart, hbefore⟩
    exact ⟨after.filterMap TextPart.result?,
      List.filterMap_eq_cons_iff.2 ⟨before, part, after, hparts, hbefore, hpart, rfl⟩⟩

end

/-- **The tags of a text are read back.** A parameter has the type of its last tag, and none without one;
the result has the type of the first result tag, and none without one. -/
theorem tags_read_back (t : TaggedText) :
    (∀ name type, (ofText t.written).parameter? name = some type ↔
      ∃ before part after, t.parts = before ++ part :: after ∧ part.parameter? = some (name, type) ∧
        ∀ later ∈ after, ∀ other, later.parameter? ≠ some (name, other)) ∧
    ∀ type, (ofText t.written).result = some type ↔
      ∃ before part after, t.parts = before ++ part :: after ∧ part.result? = some type ∧
        ∀ earlier ∈ before, earlier.result? = none := by
  constructor
  · intro name type
    exact t.parameter?_eq_some_iff
  · intro type
    exact t.result_eq_some_iff

example :
    (ofText "Adds \x7bthings\x7d. @param \x7bnumber\x7d a @returns \x7bstring\x7d\n".toList).parameter?
      ['a'] = some "number".toList ∧
    (ofText "@param \x7bnumber\x7d a, @param\n\x7b Date \x7d a.".toList).parameter? ['a'] =
      some "Date".toList ∧
    (ofText "@returns \x7bstring\x7d @return \x7bany\x7d".toList).result = some "string".toList := by
  decide +kernel

end BlazorBridge.TypeTags

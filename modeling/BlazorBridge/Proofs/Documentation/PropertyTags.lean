import BlazorBridge.Proofs.Documentation.TaggedText
import BlazorBridge.Proofs.Parameter.Names
import Mathlib.Data.Nat.Find

/-!
# Tags for properties

A tag can document a property of a parameter, as in `@param {string} user.name`. The name in a tag is
read as far as it is one word, so such a tag is read as a tag for the parameter, and what follows the
point is left over.

Main statement (`property_tag_retypes`): a tag for a property at the end of a text states a type for the
parameter, and changes no other type. What it states is its own type, unless the text ends inside a tag
that is not closed (`OpenTag`), whose type then goes on to the brace of the added tag. So a parameter
gets the type of its property (`parameter_retyped_by_property`).
-/

namespace BlazorBridge.TypeTags

open BlazorBridge.Text (IsGap IsName)

/-! ## Where a tag ends -/

/-- A text that no tag goes on into: behind white space, if there is any, it begins with a character that
is no word character and opens no braces. -/
inductive Bars : Text → Prop where
  | intro {space rest : Text} {c : Char} (blank : Text.isBlank space = true)
      (solid : isBlank c = false) (word : isWord c = false) (brace : c ≠ '{') :
      Bars (space ++ c :: rest)

theorem Bars.startsWithWord_append {tail : Text} (h : Bars tail) (t : Text) :
    Text.startsWithWord (t ++ tail) = Text.startsWithWord t := by
  cases t with
  | cons c t => rfl
  | nil =>
    cases h with
    | intro blank _ word _ =>
      rw [List.nil_append]
      exact Text.startsWithWord_blank_append blank word

/-- Behind white space neither a word nor braces begin. -/
theorem Bars.ne_blank_append {tail : Text} (h : Bars tail) {space : Text}
    (hspace : Text.isBlank space = true) {d : Char} (hd : isWord d = true ∨ d = '{') (rest : Text) :
    tail ≠ space ++ d :: rest := by
  intro heq
  cases h with
  | @intro space' rest' c blank solid word brace =>
    have hsolid : isBlank d = false := by
      rcases hd with hd | rfl
      · exact isBlank_of_isWord hd
      · decide
    have hfront := congrArg Text.trimFront heq
    rw [Text.trimFront_blank_append blank (Text.isSolid_cons.2 solid),
      Text.trimFront_blank_append hspace (Text.isSolid_cons.2 hsolid)] at hfront
    obtain ⟨rfl, -⟩ := List.cons.inj hfront
    rcases hd with hd | hd
    · rw [hd] at word
      exact absurd word (by simp)
    · exact brace hd

/-- White space that a word or braces follow ends in front of a text that bars tags. -/
theorem Bars.exists_of_gap {tail : Text} (h : Bars tail) {gap rest s : Text} {d : Char}
    (hgap : IsGap gap) (hd : isWord d = true ∨ d = '{') (heq : gap ++ d :: rest = s ++ tail) :
    ∃ s', s = gap ++ d :: s' ∧ rest = s' ++ tail := by
  rcases List.append_eq_append_iff.1 heq with ⟨s', rfl, hs'⟩ | ⟨gap', rfl, htail⟩
  · cases s' with
    | nil => exact absurd hs'.symm (h.ne_blank_append (rfl : Text.isBlank [] = true) hd rest)
    | cons e s' =>
      obtain ⟨rfl, hrest⟩ := List.cons.inj hs'
      exact ⟨s', rfl, hrest⟩
  · have hblank : Text.isBlank gap' = true := by
      have := hgap.2
      rw [Text.isBlank_append, Bool.and_eq_true] at this
      exact this.2
    exact absurd htail (h.ne_blank_append hblank hd rest)

/-- A word ends in front of a text that bars tags. -/
theorem Bars.exists_of_word {tail : Text} (h : Bars tail) {word rest s : Text}
    (hword : ∀ c ∈ word, isWord c = true) (heq : word ++ rest = s ++ tail) :
    ∃ s', s = word ++ s' ∧ rest = s' ++ tail := by
  rcases List.append_eq_append_iff.1 heq with ⟨s', hs, hrest⟩ | ⟨word', hs, htail⟩
  · exact ⟨s', hs, hrest⟩
  · cases word' with
    | nil => exact ⟨[], by simpa using hs.symm, by simpa using htail.symm⟩
    | cons c word' =>
      have hc : isWord c = true := hword c (by simp [hs])
      exact absurd htail (h.ne_blank_append (rfl : Text.isBlank [] = true) (.inl hc) _)

/-! ## Tags that are not closed -/

/-- The beginning of a parameter tag, up to a place inside its braces. -/
inductive OpenTag (body : Text) : Text → Prop where
  | intro {gap : Text} (space : IsGap gap) (free : '}' ∉ body) :
      OpenTag body ["@param".toList, gap, ['{'], body].flatten

theorem OpenTag.not_mem {body tag : Text} (h : OpenTag body tag) : '}' ∉ tag := by
  cases h with
  | intro space free => simp [free, space.not_mem (c := '}') (by decide)]

theorem OpenTag.eq_cons {body tag : Text} (h : OpenTag body tag) : ∃ rest, tag = '@' :: rest := by
  cases h with
  | intro => exact ⟨_, rfl⟩

/-- A text without closing braces goes on inside an open tag. -/
theorem OpenTag.append {body tag more : Text} (h : OpenTag body tag) (hmore : '}' ∉ more) :
    OpenTag (body ++ more) (tag ++ more) := by
  cases h with
  | @intro gap space free =>
    have htag := OpenTag.intro space (List.not_mem_append free hmore)
    have heq : ["@param".toList, gap, ['{'], body].flatten ++ more =
        ["@param".toList, gap, ['{'], body ++ more].flatten := by simp
    rwa [heq]

/-- An open tag is closed by a brace with a name behind it. -/
theorem OpenTag.close {body tag name gap : Text} (h : OpenTag body tag) (hne : body ≠ [])
    (hgap : IsGap gap) (hname : IsName name) :
    ParameterTag name body (tag ++ '}' :: (gap ++ name)) := by
  cases h with
  | @intro gap' space free =>
    have hclosed := ParameterTag.intro space hne free hgap hname
    have heq : ["@param".toList, gap', ['{'], body].flatten ++ '}' :: (gap ++ name) =
        ["@param".toList, gap', ['{'], body, ['}'], gap, name].flatten := by simp
    rwa [heq]

/-- A text ends inside a tag. -/
def HasOpenTag (t : Text) : Prop := ∃ before tag body, t = before ++ tag ∧ OpenTag body tag

/-- The first open tag that a text ends inside has `body` behind its brace. -/
def FirstOpen (t body : Text) : Prop :=
  ∃ before tag, t = before ++ tag ∧ OpenTag body tag ∧
    ∀ before' tag' body', t = before' ++ tag' → OpenTag body' tag' →
      before.length ≤ before'.length

theorem HasOpenTag.exists_first {t : Text} (h : HasOpenTag t) : ∃ body, FirstOpen t body := by
  classical
  have hexists : ∃ n before tag body, before.length = n ∧ t = before ++ tag ∧ OpenTag body tag := by
    obtain ⟨before, tag, body, ht, hopen⟩ := h
    exact ⟨before.length, before, tag, body, rfl, ht, hopen⟩
  obtain ⟨before, tag, body, hlength, ht, hopen⟩ := Nat.find_spec hexists
  refine ⟨body, before, tag, ht, hopen, ?_⟩
  intro before' tag' body' ht' hopen'
  rw [hlength]
  exact Nat.find_min' hexists ⟨before', tag', body', rfl, ht', hopen'⟩

/-- A text with no at sign behind its last closing brace does not end inside a tag. -/
theorem not_hasOpenTag {front back : Text} (h : '@' ∉ back) :
    ¬ HasOpenTag (front ++ '}' :: back) := by
  rintro ⟨before, tag, body, ht, hopen⟩
  rcases List.append_eq_append_iff.1 ht with ⟨more, hbefore, hmore⟩ | ⟨more, -, htag⟩
  · cases more with
    | nil => exact hopen.not_mem (by rw [← List.nil_append tag, ← hmore]; simp)
    | cons c more =>
      obtain ⟨-, hback⟩ := List.cons.inj hmore
      obtain ⟨rest, hrest⟩ := hopen.eq_cons
      exact h (by rw [hback, hrest]; simp)
  · exact hopen.not_mem (by rw [htag]; simp)

/-! ## Reading in front of a bar -/

/-- A tag that is read in front of a bar ends before it, unless it begins as an open tag. -/
theorem ParameterTag.exists_rest {name body written s tail rest : Text}
    (h : ParameterTag name body written) (hs : s ≠ []) (hopen : ∀ body', ¬ OpenTag body' s)
    (htail : Bars tail) (heq : s ++ tail = written ++ rest) :
    ∃ rest', s = written ++ rest' ∧ rest = rest' ++ tail := by
  cases h with
  | @intro gap₁ gap₂ hgap₁ hne hfree hgap₂ hname =>
  obtain ⟨d, name', rfl⟩ := List.exists_cons_of_ne_nil hname.1
  obtain ⟨c, s, rfl⟩ := List.exists_cons_of_ne_nil hs
  have hparts : '@' :: ("param".toList ++ (gap₁ ++ '{' :: (body ++
      '}' :: (gap₂ ++ d :: (name' ++ rest))))) = c :: (s ++ tail) := by
    refine Eq.trans ?_ heq.symm
    simp
  obtain ⟨rfl, hword⟩ := List.cons.inj hparts
  have hparam : IsName "param".toList := by decide
  obtain ⟨s₁, rfl, h₁⟩ := htail.exists_of_word hparam.2 hword
  obtain ⟨s₂, rfl, h₂⟩ := htail.exists_of_gap hgap₁ (.inr rfl) h₁
  -- The brace is closed before the bar: otherwise the tag would be open.
  have hclosed : '}' ∈ s₂ := by
    by_contra hnot
    refine hopen s₂ ?_
    have hintro := OpenTag.intro hgap₁ hnot
    have hform : '@' :: ("param".toList ++ (gap₁ ++ '{' :: s₂)) =
        ["@param".toList, gap₁, ['{'], s₂].flatten := by simp
    rwa [hform]
  obtain ⟨s₃, rfl, h₃⟩ : ∃ s₃, s₂ = body ++ '}' :: s₃ ∧
      gap₂ ++ d :: (name' ++ rest) = s₃ ++ tail := by
    rcases List.append_eq_append_iff.1 h₂ with ⟨more, rfl, hmore⟩ | ⟨more, rfl, -⟩
    · cases more with
      | nil => exact absurd (by simpa using hclosed) hfree
      | cons e more =>
        obtain ⟨rfl, hrest⟩ := List.cons.inj hmore
        exact ⟨more, rfl, hrest⟩
    · exact absurd (List.mem_append_left _ hclosed) hfree
  obtain ⟨s₄, rfl, h₄⟩ := htail.exists_of_gap hgap₂ (.inl (hname.2 d (by simp))) h₃
  obtain ⟨rest', rfl, hrest⟩ :=
    htail.exists_of_word (fun e he => hname.2 e (by simp [he])) h₄
  exact ⟨rest', by simp, hrest⟩

/-- What is read in front of a bar does not depend on it. -/
theorem parameterTag?_append {s tail : Text} (hs : s ≠ []) (hopen : ∀ body, ¬ OpenTag body s)
    (htail : Bars tail) :
    parameterTag? (s ++ tail) = (parameterTag? s).map fun r => (r.1, r.2 ++ tail) := by
  refine Option.ext fun ⟨⟨name, type⟩, rest⟩ => ?_
  rw [parameterTag?_eq_some_iff, Option.map_eq_some_iff]
  constructor
  · rintro ⟨body, written, hform, rfl, heq, hrest⟩
    obtain ⟨rest', rfl, rfl⟩ := hform.exists_rest hs hopen htail heq
    rw [htail.startsWithWord_append] at hrest
    exact ⟨_, parameterTag?_eq_some_iff.2 ⟨body, written, hform, rfl, rfl, hrest⟩, rfl⟩
  · rintro ⟨⟨⟨name', type'⟩, rest'⟩, hread, heq⟩
    obtain ⟨body, written, hform, rfl, rfl, hrest⟩ := parameterTag?_eq_some_iff.1 hread
    obtain ⟨⟨rfl, rfl⟩, rfl⟩ : (name' = name ∧ Text.trim body = type) ∧ rest' ++ tail = rest := by
      simpa using heq
    exact ⟨body, written, hform, rfl, List.append_assoc _ _ _,
      by rwa [htail.startsWithWord_append]⟩

/-- Where nothing is read a scan goes on with the next character. -/
theorem scan_cons_of_none {α : Type} {read : Text → Option (α × Text)} {c : Char} {t : Text}
    (h : read (c :: t) = none) : Place.scan (atPlace read) (c :: t) = Place.scan (atPlace read) t := by
  have hat : atPlace read ⟨[], c :: t⟩ = none := by
    rw [atPlace, h]
    rfl
  unfold Place.scan
  rw [Place.scanFrom, hat]
  exact scanFrom_atPlace_before 0 [c] t

/-- The tags of a text in front of a bar, and those behind its beginning. -/
theorem scan_append_bars {t tail : Text} (hopen : ∀ s body, s <:+ t → s ≠ [] → ¬ OpenTag body s)
    (htail : Bars tail) :
    Place.scan (atPlace parameterTag?) (t ++ tail) =
      Place.scan (atPlace parameterTag?) t ++ Place.scan (atPlace parameterTag?) tail := by
  -- Each step goes on behind a character or behind a tag, so the induction is on the length.
  induction hn : t.length using Nat.strong_induction_on generalizing t with
  | _ n ih =>
  cases t with
  | nil => rfl
  | cons c t =>
    have hread := parameterTag?_append (s := c :: t) (by simp)
      (fun body => hopen _ body List.suffix_rfl (by simp)) htail
    cases hfound : parameterTag? (c :: t) with
    | none =>
      rw [hfound, Option.map_none, List.cons_append] at hread
      rw [scan_cons_of_none hfound, List.cons_append, scan_cons_of_none hread]
      refine ih t.length (by simp [← hn]) (fun s body hs => ?_) rfl
      exact hopen s body (hs.trans (List.suffix_cons c t))
    | some found =>
      obtain ⟨a, rest⟩ := found
      obtain ⟨d, w, hw⟩ := consumes_parameterTag? _ _ _ hfound
      rw [hfound, Option.map_some, hw, List.append_assoc] at hread
      rw [hw] at hfound
      rw [hw, List.append_assoc, scan_tag_append (by simp) hread, scan_tag_append (by simp) hfound,
        List.cons_append]
      have hlen : rest.length < n := by
        rw [← hn, hw, List.length_append, List.length_cons]
        omega
      refine congrArg _ (ih rest.length hlen (fun s body hs => ?_) rfl)
      exact hopen s body (hs.trans (by rw [hw]; exact List.suffix_append _ _))

/-! ## Tags for properties -/

/-- What stands in front of the type in an added tag. -/
def tagLead : Text := "\n * @param \x7b".toList

/-- A line with a tag for a property, as it is added to a documentation text. -/
def propertyTag (type name property : Text) : Text :=
  tagLead ++ type ++ '}' :: ' ' :: (name ++ '.' :: property)

/-- The point ends the name in a tag, and what follows it states nothing. -/
theorem scan_property {name body written property : Text} (h : ParameterTag name body written)
    (hproperty : IsName property) :
    Place.scan (atPlace parameterTag?) (written ++ '.' :: property) = [(name, Text.trim body)] := by
  have hplain : '@' ∉ '.' :: property := by
    rw [List.mem_cons, not_or]
    exact ⟨by decide, hproperty.not_mem (by decide)⟩
  have hrest : Place.scan (atPlace parameterTag?) ('.' :: property) = [] := by
    have hscan := scan_plain_append atSign_parameterTag? hplain []
    rwa [List.append_nil] at hscan
  have hpoint : Text.startsWithWord ('.' :: property) = false := (by decide : isWord '.' = false)
  rw [h.scan_parameters hpoint, hrest]

section

variable {content type name property : Text}

theorem bars_propertyTag : Bars (propertyTag type name property) := by
  have hsplit : propertyTag type name property = "\n ".toList ++ '*' ::
      (" @param \x7b".toList ++ type ++ '}' :: ' ' :: (name ++ '.' :: property)) := rfl
  rw [hsplit]
  exact .intro (by decide) (by decide) (by decide) (by decide)

/-- Behind a closed text the tag for a property is read as a tag for the parameter. Without a type it is
none. -/
theorem scan_propertyTag (hname : IsName name) (hproperty : IsName property) (htype : '}' ∉ type) :
    Place.scan (atPlace parameterTag?) (propertyTag type name property) =
      if type = [] then [] else [(name, Text.trim type)] := by
  have hgap : IsGap [' '] := by decide
  have hlead : tagLead = "\n * ".toList ++ "@param \x7b".toList := rfl
  have hsplit : propertyTag type name property =
      "\n * ".toList ++ (("@param \x7b".toList ++ type ++ '}' :: ([' '] ++ name)) ++
        '.' :: property) := by
    simp only [propertyTag, hlead, List.append_assoc, List.cons_append, List.nil_append]
  rw [hsplit, scan_plain_append atSign_parameterTag? (by decide)]
  split
  · rename_i hempty
    subst hempty
    have hplain : '@' ∉ "param \x7b\x7d ".toList ++ (name ++ '.' :: property) := by
      simp only [List.mem_append, List.mem_cons, not_or]
      exact ⟨by decide, hname.not_mem (by decide), by decide, hproperty.not_mem (by decide)⟩
    have hnone : parameterTag? ('@' :: ("param \x7b\x7d ".toList ++ (name ++ '.' :: property) ++ [])) =
        none := rfl
    have hscan := scan_other_append atSign_parameterTag? hplain hnone
    rwa [List.append_nil] at hscan
  · rename_i hne
    have hopen : OpenTag type ("@param \x7b".toList ++ type) := by
      have hintro := OpenTag.intro hgap htype
      rwa [show "@param \x7b".toList ++ type = ["@param".toList, [' '], ['{'], type].flatten by simp]
    exact scan_property (hopen.close hne hgap hname) hproperty

/-- Behind a text that does not end inside a tag. -/
theorem parameters_of_closed (hname : IsName name) (hproperty : IsName property)
    (htype : '}' ∉ type) (h : ¬ HasOpenTag content) :
    (ofText (content ++ propertyTag type name property)).parameters =
      (ofText content).parameters ++ if type = [] then [] else [(name, Text.trim type)] := by
  have hopen : ∀ s body, s <:+ content → s ≠ [] → ¬ OpenTag body s := by
    rintro s body ⟨before, rfl⟩ - hs
    exact h ⟨before, s, body, rfl, hs⟩
  rw [ofText, scan_append_bars hopen bars_propertyTag, scan_propertyTag hname hproperty htype]
  rfl

/-- Behind a text that ends inside a tag, the added line ends that tag. -/
theorem parameters_of_open (hname : IsName name) (hproperty : IsName property) (htype : '}' ∉ type)
    {body : Text} (h : FirstOpen content body) :
    (ofText (content ++ propertyTag type name property)).parameters =
      (ofText content).parameters ++ [(name, Text.trim (body ++ tagLead ++ type))] := by
  obtain ⟨before, tag, rfl, hopen, hfirst⟩ := h
  have hmore : '}' ∉ tagLead ++ type := List.not_mem_append (by decide) htype
  have hgap : IsGap [' '] := by decide
  obtain ⟨rest, hrest⟩ := hopen.eq_cons
  have hbars (more : Text) : Bars (tag ++ more) := by
    rw [hrest]
    exact @Bars.intro [] (rest ++ more) '@' rfl (by decide) (by decide) (by decide)
  -- No tag is open before the first.
  have hclosed : ∀ s body', s <:+ before → s ≠ [] → ¬ OpenTag body' s := by
    rintro s body' ⟨front, rfl⟩ hs hbody'
    have hle := hfirst front (s ++ tag) (body' ++ tag) (by simp) (hbody'.append hopen.not_mem)
    have := List.length_pos_iff.2 hs
    rw [List.length_append] at hle
    omega
  have htag : Place.scan (atPlace parameterTag?) tag = [] := by
    by_contra hne
    obtain ⟨front, w, back, n, b, ht, hw⟩ := parameters_ofText_ne_nil_iff.1 hne
    refine hopen.not_mem ?_
    cases hw with
    | intro => rw [ht]; simp
  have hscan : Place.scan (atPlace parameterTag?) (tag ++ propertyTag type name property) =
      [(name, Text.trim (body ++ tagLead ++ type))] := by
    have hsplit : tag ++ propertyTag type name property =
        ((tag ++ (tagLead ++ type)) ++ '}' :: ([' '] ++ name)) ++ '.' :: property := by
      simp only [propertyTag, List.append_assoc, List.cons_append, List.nil_append]
    have hne : body ++ (tagLead ++ type) ≠ [] := by simp [show tagLead ≠ [] by decide]
    rw [hsplit, List.append_assoc body]
    exact scan_property ((hopen.append hmore).close hne hgap hname) hproperty
  have hcontent : Place.scan (atPlace parameterTag?) (before ++ tag) =
      Place.scan (atPlace parameterTag?) before := by
    have happend := scan_append_bars hclosed (hbars [])
    rwa [List.append_nil, htag, List.append_nil] at happend
  unfold ofText
  dsimp only
  rw [List.append_assoc, scan_append_bars hclosed (hbars _), hscan, hcontent]

/-- One tag more states the type of its parameter and leaves the others. -/
theorem parameter?_of_append {tags more : TypeTags}
    (h : more.parameters = tags.parameters ++ [(name, type)]) (other : Text) :
    more.parameter? other = if other = name then some type else tags.parameter? other := by
  unfold parameter?
  rw [h, List.reverse_append, List.reverse_singleton, List.singleton_append, List.lookup_cons]
  by_cases hother : other = name
  · simp [hother]
  · simp [hother, beq_eq_false_iff_ne.2 hother]

theorem parameter?_of_closed (hname : IsName name) (hproperty : IsName property)
    (htype : '}' ∉ type) (h : ¬ HasOpenTag content) (other : Text) :
    (ofText (content ++ propertyTag type name property)).parameter? other =
      if other = name ∧ type ≠ [] then some (Text.trim type)
      else (ofText content).parameter? other := by
  have hparameters := parameters_of_closed hname hproperty htype h
  by_cases hempty : type = []
  · rw [if_pos hempty, List.append_nil] at hparameters
    rw [if_neg (by simp [hempty]), parameter?, parameter?, hparameters]
  · rw [if_neg hempty] at hparameters
    rw [parameter?_of_append hparameters]
    simp [hempty]

theorem parameter?_of_open (hname : IsName name) (hproperty : IsName property)
    (htype : '}' ∉ type) {body : Text} (h : FirstOpen content body) (other : Text) :
    (ofText (content ++ propertyTag type name property)).parameter? other =
      if other = name then some (Text.trim (body ++ tagLead ++ type))
      else (ofText content).parameter? other :=
  parameter?_of_append (parameters_of_open hname hproperty htype h) other

/-- A name that is all of its parameter is read with the type stated for it. -/
theorem type_ofSegment_name {tags : TypeTags} (hname : IsName name)
    (h : tags.parameter? name = some (Text.trim type)) (hblank : Text.isBlank type = false) :
    (Parameter.ofSegment tags name).type = WrapperType.ofAnnotation (Text.trim type) := by
  have hne : Text.trim type ≠ [] := by
    rw [Ne, Text.trim_eq_nil_iff, hblank]
    simp
  rw [Parameter.ofSegment_name _ hname hname.trim_eq]
  exact Parameter.typeOf_of_stated h hne

end

/-- **A tag for a property retypes the parameter.** It changes the type of no other name. Behind a text
that does not end inside a tag it states its own type for the parameter, unless it has none, and the
parameter is read with that type. Behind a text that ends inside a tag it states what stands from the
brace of that tag on. -/
theorem property_tag_retypes (content type name property : Text) (hname : IsName name)
    (hproperty : IsName property) (htype : '}' ∉ type) :
    (∀ other, other ≠ name →
      (ofText (content ++ propertyTag type name property)).parameter? other =
        (ofText content).parameter? other) ∧
    (¬ HasOpenTag content →
      (ofText (content ++ propertyTag type name property)).parameter? name =
        if type = [] then (ofText content).parameter? name else some (Text.trim type)) ∧
    (¬ HasOpenTag content → Text.isBlank type = false →
      (Parameter.ofSegment (ofText (content ++ propertyTag type name property)) name).type =
        WrapperType.ofAnnotation (Text.trim type)) ∧
    ∀ body, FirstOpen content body →
      (ofText (content ++ propertyTag type name property)).parameter? name =
        some (Text.trim (body ++ tagLead ++ type)) := by
  have hvalue : ¬ HasOpenTag content →
      (ofText (content ++ propertyTag type name property)).parameter? name =
        if type = [] then (ofText content).parameter? name else some (Text.trim type) := by
    intro hclosed
    rw [parameter?_of_closed hname hproperty htype hclosed]
    by_cases hempty : type = [] <;> simp [hempty]
  refine ⟨?_, hvalue, ?_, ?_⟩
  · intro other hother
    by_cases hopen : HasOpenTag content
    · obtain ⟨body, hbody⟩ := hopen.exists_first
      rw [parameter?_of_open hname hproperty htype hbody, if_neg hother]
    · rw [parameter?_of_closed hname hproperty htype hopen, if_neg (by simp [hother])]
  · intro hclosed hblank
    have hempty : type ≠ [] := by
      rintro rfl
      simp [Text.isBlank] at hblank
    refine type_ofSegment_name hname ?_ hblank
    rw [hvalue hclosed, if_neg hempty]
  · intro body hbody
    rw [parameter?_of_open hname hproperty htype hbody, if_pos rfl]

/-- A text that documents a parameter. -/
def userText : Text := "/**\n * @param \x7bObject\x7d user".toList

/-- The parameter gets the type of the property; behind an open tag it gets all that stands up to the
brace. -/
theorem user_retyped :
    (ofText userText).parameter? "user".toList = some "Object".toList ∧
    (ofText (userText ++ propertyTag "string".toList "user".toList "name".toList)).parameter?
      "user".toList = some "string".toList ∧
    (ofText ("@param \x7ba".toList ++
      propertyTag "string".toList "user".toList "name".toList)).parameter? "user".toList =
        some "a\n * @param \x7bstring".toList := by
  have hname : IsName "user".toList := by decide
  have hproperty : IsName "name".toList := by decide
  have htype : '}' ∉ "string".toList := by decide
  have hclosed : ¬ HasOpenTag userText := by
    have hsplit : userText = "/**\n * @param \x7bObject".toList ++ '}' :: " user".toList := rfl
    rw [hsplit]
    exact not_hasOpenTag (by decide)
  have hfirst : FirstOpen "@param \x7ba".toList ['a'] :=
    ⟨[], _, rfl, @OpenTag.intro ['a'] [' '] (by decide) (by decide), fun _ _ _ _ _ => Nat.zero_le _⟩
  obtain ⟨-, hvalue, -, -⟩ := property_tag_retypes userText _ _ _ hname hproperty htype
  obtain ⟨-, -, -, hopen⟩ := property_tag_retypes "@param \x7ba".toList _ _ _ hname hproperty htype
  refine ⟨by decide +kernel, hvalue hclosed, ?_⟩
  rw [hopen _ hfirst]
  decide +kernel

/-- A tag for a property does not leave the type of the parameter as it was, neither in the tags nor where
the parameter is read. -/
theorem parameter_retyped_by_property :
    ¬ (∀ content type name property : Text, IsName name → IsName property → '}' ∉ type →
      (ofText (content ++ propertyTag type name property)).parameter? name =
        (ofText content).parameter? name) ∧
    ¬ ∀ content type name property : Text, IsName name → IsName property → '}' ∉ type →
      (Parameter.ofSegment (ofText (content ++ propertyTag type name property)) name).type =
        (Parameter.ofSegment (ofText content) name).type := by
  refine ⟨fun h => ?_, fun h => ?_⟩
  · exact absurd (h userText "string".toList "user".toList "name".toList (by decide) (by decide)
      (by decide)) (by decide +kernel)
  · exact absurd (h userText "string".toList "user".toList "name".toList (by decide) (by decide)
      (by decide)) (by decide +kernel)

end BlazorBridge.TypeTags

import BlazorBridge.Documentation.Tags
import BlazorBridge.Proofs.Text.Runs
import BlazorBridge.Proofs.Text.Scan
import Mathlib.Tactic.Push

/-!
# The grammar of type tags

The two kinds of tag as sets of texts, and what the tags of a text state in terms of where tags occur
in it. Main statement (`stated_ofText_iff`): a text states a type exactly when it holds a parameter
tag, or when the first of its result tags has a type that is not blank.
-/

namespace BlazorBridge.TypeTags

open BlazorBridge.Text (IsGap IsName IsSolid)

/-! ## Tags -/

/-- `@param {TYPE} NAME`, where `body` is the text between the braces. -/
inductive ParameterTag (name body : Text) : Text → Prop where
  | intro {gap₁ gap₂ : Text} (space₁ : IsGap gap₁) (nonempty : body ≠ []) (free : '}' ∉ body)
      (space₂ : IsGap gap₂) (word : IsName name) :
      ParameterTag name body ["@param".toList, gap₁, ['{'], body, ['}'], gap₂, name].flatten

/-- `@return {TYPE}` or `@returns {TYPE}`, where `body` is the text between the braces. -/
inductive ResultTag (body : Text) : Text → Prop where
  | intro {ending gap : Text} (ends : ending = [] ∨ ending = ['s']) (space : IsGap gap)
      (nonempty : body ≠ []) (free : '}' ∉ body) :
      ResultTag body ["@return".toList, ending, gap, ['{'], body, ['}']].flatten

/-! ## Reading the parts -/

theorem gap?_eq_some_iff {t rest : Text} :
    gap? t = some rest ↔ ∃ gap, IsGap gap ∧ t = gap ++ rest ∧ IsSolid rest := by
  cases t with
  | nil =>
    simp only [gap?, reduceCtorEq, false_iff]
    rintro ⟨gap, ⟨hne, -⟩, h, -⟩
    exact hne (List.append_eq_nil_iff.1 h.symm).1
  | cons c t =>
    rw [gap?]
    constructor
    · intro h
      split at h
      · rename_i hc
        obtain ⟨w, hw, ht⟩ := Text.exists_blank_append_trimFront t
        obtain rfl := Option.some.inj h
        refine ⟨c :: w, ⟨by simp, Text.isBlank_cons.2 ⟨hc, hw⟩⟩, ?_, Text.isSolid_trimFront t⟩
        rw [List.cons_append, ← ht]
      · simp at h
    · rintro ⟨gap, ⟨hne, hgap⟩, h, hs⟩
      cases gap with
      | nil => exact absurd rfl hne
      | cons d gap =>
        obtain ⟨rfl, ht⟩ := List.cons.inj h
        obtain ⟨hc, hg⟩ := Text.isBlank_cons.1 hgap
        rw [if_pos hc, show t = gap ++ rest from ht, Text.trimFront_blank_append hg hs]

theorem braced?_eq_some_iff {t type rest : Text} :
    braced? t = some (type, rest) ↔
      ∃ body, body ≠ [] ∧ '}' ∉ body ∧ type = Text.trim body ∧ t = '{' :: (body ++ '}' :: rest) := by
  constructor
  · intro h
    unfold braced? at h
    split at h
    · simp at h
    · rename_i c u
      split at h
      · rename_i hc
        split at h
        · rename_i body after hcut
          obtain ⟨hu, hfree⟩ := Text.cut_eq_some_iff.1 hcut
          split at h
          · simp at h
          · rename_i hne
            obtain ⟨rfl, rfl⟩ := Prod.mk.inj (Option.some.inj h)
            exact ⟨body, by simpa using hne, hfree, rfl, by rw [hc, hu]⟩
        · simp at h
      · simp at h
  · rintro ⟨body, hne, hfree, rfl, rfl⟩
    have hcut : Text.cut '}' (body ++ '}' :: rest) = some (body, rest) :=
      Text.cut_eq_some_iff.2 ⟨rfl, hfree⟩
    rw [braced?, if_pos rfl, hcut]
    simp [hne]

theorem word?_eq_some_iff {t name rest : Text} :
    word? t = some (name, rest) ↔
      IsName name ∧ t = name ++ rest ∧ Text.startsWithWord rest = false := by
  unfold word?
  constructor
  · intro h
    split at h
    · rename_i ht
      obtain ⟨rfl, rfl⟩ := Prod.mk.inj (Option.some.inj h)
      refine ⟨⟨?_, fun c hc => List.mem_takeWhile_imp hc⟩, ?_, Text.startsWithWord_dropWhile t⟩
      · cases t with
        | nil => simp [Text.startsWithWord] at ht
        | cons c t =>
          rw [List.takeWhile_cons_of_pos (show isWord c = true from ht)]
          simp
      · rw [List.takeWhile_append_dropWhile]
    · simp at h
  · rintro ⟨hname, rfl, hrest⟩
    rw [if_pos (hname.startsWithWord_append rest), hname.takeWhile_append hrest,
      hname.dropWhile_append hrest]

/-! ## Reading the tags -/

/-- A parameter tag is read as the grammar has it, with a name as long as possible. -/
theorem parameterTag?_eq_some_iff {t name type rest : Text} :
    parameterTag? t = some ((name, type), rest) ↔
      ∃ body w, ParameterTag name body w ∧ type = Text.trim body ∧ t = w ++ rest ∧
        Text.startsWithWord rest = false := by
  unfold parameterTag?
  simp only [Option.bind_eq_bind, Option.bind_eq_some_iff, Option.pure_def, Option.some.injEq,
    Prod.mk.injEq, Prod.exists]
  constructor
  · rintro ⟨t₁, h₁, t₂, h₂, type', t₃, h₃, t₄, h₄, name', t₅, h₅, ⟨rfl, rfl⟩, rfl⟩
    rw [Text.after?_eq_some_iff] at h₁
    obtain ⟨gap₁, hgap₁, rfl, -⟩ := gap?_eq_some_iff.1 h₂
    obtain ⟨body, hne, hfree, rfl, rfl⟩ := braced?_eq_some_iff.1 h₃
    obtain ⟨gap₂, hgap₂, rfl, -⟩ := gap?_eq_some_iff.1 h₄
    obtain ⟨hname, rfl, hrest⟩ := word?_eq_some_iff.1 h₅
    refine ⟨body, _, .intro hgap₁ hne hfree hgap₂ hname, rfl, ?_, hrest⟩
    rw [h₁]
    simp
  · rintro ⟨body, w, hw, rfl, rfl, hrest⟩
    cases hw with
    | @intro gap₁ gap₂ hgap₁ hne hfree hgap₂ hname =>
    refine ⟨gap₁ ++ ('{' :: (body ++ '}' :: (gap₂ ++ (name ++ rest)))), ?_,
      '{' :: (body ++ '}' :: (gap₂ ++ (name ++ rest))), ?_, Text.trim body,
      gap₂ ++ (name ++ rest), ?_, name ++ rest, ?_, name, rest, ?_, ⟨rfl, rfl⟩, rfl⟩
    · rw [Text.after?_eq_some_iff]
      simp
    · exact gap?_eq_some_iff.2 ⟨gap₁, hgap₁, rfl, Text.isSolid_cons.2 (by decide)⟩
    · exact braced?_eq_some_iff.2 ⟨body, hne, hfree, rfl, rfl⟩
    · exact gap?_eq_some_iff.2 ⟨gap₂, hgap₂, rfl, hname.isSolid_append rest⟩
    · exact word?_eq_some_iff.2 ⟨hname, rfl, hrest⟩

/-- A result tag is read as the grammar has it. -/
theorem resultTag?_eq_some_iff {t type rest : Text} :
    resultTag? t = some (type, rest) ↔
      ∃ body w, ResultTag body w ∧ type = Text.trim body ∧ t = w ++ rest := by
  unfold resultTag?
  simp only [Option.bind_eq_bind, Option.bind_eq_some_iff]
  constructor
  · rintro ⟨t₁, h₁, t₂, h₂, h₃⟩
    rw [Text.after?_eq_some_iff] at h₁
    obtain ⟨gap, hgap, ht₂, -⟩ := gap?_eq_some_iff.1 h₂
    obtain ⟨body, hne, hfree, rfl, rfl⟩ := braced?_eq_some_iff.1 h₃
    obtain ⟨ending, hends, ht₁⟩ : ∃ ending, (ending = [] ∨ ending = ['s']) ∧
        t₁ = ending ++ (Text.after? ['s'] t₁).getD t₁ := by
      cases hs : Text.after? ['s'] t₁ with
      | none => exact ⟨[], Or.inl rfl, rfl⟩
      | some u => exact ⟨['s'], Or.inr rfl, Text.after?_eq_some_iff.1 hs⟩
    refine ⟨body, _, .intro hends hgap hne hfree, rfl, ?_⟩
    rw [h₁, ht₁, ht₂]
    simp
  · rintro ⟨body, w, hw, rfl, rfl⟩
    cases hw with
    | @intro ending gap hends hgap hne hfree =>
    refine ⟨ending ++ (gap ++ ('{' :: (body ++ '}' :: rest))), ?_, '{' :: (body ++ '}' :: rest), ?_,
      braced?_eq_some_iff.2 ⟨body, hne, hfree, rfl, rfl⟩⟩
    · rw [Text.after?_eq_some_iff]
      simp
    · refine gap?_eq_some_iff.2 ⟨gap, hgap, ?_, Text.isSolid_cons.2 (by decide)⟩
      rcases hends with rfl | rfl
      · -- White space is no `s`, so nothing is taken for the ending.
        obtain ⟨hgap, hblank⟩ := hgap
        cases gap with
        | nil => exact absurd rfl hgap
        | cons c gap =>
          have hc : 's' ≠ c := by
            rintro rfl
            exact absurd (Text.isBlank_cons.1 hblank).1 (by decide)
          simp [Text.after?, hc]
      · rfl

/-! ## Where tags occur -/

section

variable {α : Type} {read : Text → Option (α × Text)}

/-- A reader takes at least one character. -/
def Consumes (read : Text → Option (α × Text)) : Prop :=
  ∀ t a rest, read t = some (a, rest) → ∃ c w, t = c :: w ++ rest

theorem proper_atPlace (h : Consumes read) : Place.Proper (atPlace read) := by
  intro p a n hp
  obtain ⟨⟨found, rest⟩, hr, heq⟩ := Option.map_eq_some_iff.1 hp
  obtain ⟨c, w, ht⟩ := h _ _ _ hr
  obtain ⟨rfl, rfl⟩ := Prod.mk.inj heq
  rw [ht, List.length_append, List.length_cons]
  omega

/-- An occurrence is a part of the text that is read there. -/
theorem matchIn_atPlace_iff (h : Consumes read) {t : Text} {m : Match α} :
    Place.MatchIn (atPlace read) t m ↔
      ∃ before w rest, t = before ++ (w ++ rest) ∧ m.start = before.length ∧
        m.stop = before.length + w.length ∧ read (w ++ rest) = some (m.found, rest) := by
  constructor
  · rintro ⟨n, hn, hm⟩
    have hproper := proper_atPlace h _ _ _ hm
    obtain ⟨⟨found, rest⟩, hr, heq⟩ := Option.map_eq_some_iff.1 hm
    obtain ⟨rfl, rfl⟩ := Prod.mk.inj heq
    simp only [Place.ofOffset] at hr hproper
    obtain ⟨c, w, ht⟩ := h _ _ _ hr
    rw [List.length_drop] at hproper
    have hstart : (t.take m.start).length = m.start := by
      rw [List.length_take]
      omega
    have hlength : (t.drop m.start).length - rest.length = (c :: w).length := by
      rw [ht, List.length_append, Nat.add_sub_cancel]
    refine ⟨t.take m.start, c :: w, rest, ?_, hstart.symm, ?_, by rw [← ht, hr]⟩
    · rw [← ht, List.take_append_drop]
    · rw [hstart, hn]
      exact congrArg _ hlength
  · rintro ⟨before, w, rest, rfl, hs, he, hr⟩
    refine ⟨w.length, by omega, ?_⟩
    rw [hs, Place.ofOffset_append, atPlace, hr]
    simp

end

theorem consumes_parameterTag? : Consumes parameterTag? := by
  rintro t ⟨name, type⟩ rest h
  obtain ⟨body, w, hw, -, ht, -⟩ := parameterTag?_eq_some_iff.1 h
  cases hw with
  | intro => exact ⟨'@', _, ht⟩

theorem consumes_resultTag? : Consumes resultTag? := by
  intro t type rest h
  obtain ⟨body, w, hw, -, ht⟩ := resultTag?_eq_some_iff.1 h
  cases hw with
  | intro => exact ⟨'@', _, ht⟩

/-! ## Scanning tags -/

section

variable {α : Type} {read : Text → Option (α × Text)}

/-- Where tags are read does not depend on what stands before. -/
theorem scanFrom_atPlace_before (skip : Nat) (before t : Text) :
    Place.scanFrom (atPlace read) skip before t = Place.scanFrom (atPlace read) skip [] t := by
  induction t generalizing skip before with
  | nil => cases skip <;> rfl
  | cons c t ih =>
    cases skip with
    | succ skip =>
      rw [Place.scanFrom, Place.scanFrom, ih, ih _ [c]]
    | zero =>
      have hat : atPlace read ⟨before, c :: t⟩ = atPlace read ⟨[], c :: t⟩ := rfl
      rw [Place.scanFrom, Place.scanFrom, hat]
      split
      · rw [ih, ih _ [c]]
      · rw [ih, ih _ [c]]

/-- A reader reads only what begins with an at sign. -/
def AtSign (read : Text → Option (α × Text)) : Prop :=
  ∀ t, t.head? ≠ some '@' → read t = none

/-- A text without at signs in front adds no tags. -/
theorem scan_plain_append (h : AtSign read) {seg : Text} (hseg : '@' ∉ seg) (rest : Text) :
    Place.scan (atPlace read) (seg ++ rest) = Place.scan (atPlace read) rest := by
  unfold Place.scan
  rw [Place.scanFrom_append_of_none, scanFrom_atPlace_before]
  intro a b hab hb
  have hhead : (b ++ rest).head? ≠ some '@' := by
    cases b with
    | nil => exact absurd rfl hb
    | cons c b =>
      rintro hc
      obtain rfl := Option.some.inj hc
      exact hseg (by simp [hab])
  rw [atPlace, h _ hhead]
  rfl

/-- A tag in front is the first that is found. -/
theorem scan_tag_append {w rest : Text} {a : α} (hw : w ≠ [])
    (h : read (w ++ rest) = some (a, rest)) :
    Place.scan (atPlace read) (w ++ rest) = a :: Place.scan (atPlace read) rest := by
  unfold Place.scan
  have hat : atPlace read ⟨[], w ++ rest⟩ = some (a, w.length) := by
    rw [atPlace, h]
    simp
  rw [Place.scanFrom_append_of_some hw hat, scanFrom_atPlace_before]

/-- Another tag in front adds nothing. -/
theorem scan_other_append (h : AtSign read) {seg rest : Text} (hseg : '@' ∉ seg)
    (hnone : read ('@' :: (seg ++ rest)) = none) :
    Place.scan (atPlace read) ('@' :: (seg ++ rest)) = Place.scan (atPlace read) rest := by
  rw [← scan_plain_append h hseg rest]
  unfold Place.scan
  have hat : atPlace read ⟨[], '@' :: (seg ++ rest)⟩ = none := by
    rw [atPlace, hnone]
    rfl
  rw [Place.scanFrom, hat]
  exact scanFrom_atPlace_before 0 ['@'] _

end

theorem atSign_parameterTag? : AtSign parameterTag? := by
  intro t ht
  rw [Option.eq_none_iff_forall_ne_some]
  rintro ⟨⟨name, type⟩, rest⟩ h
  obtain ⟨body, w, hw, -, rfl, -⟩ := parameterTag?_eq_some_iff.1 h
  cases hw with
  | intro => exact ht rfl

theorem atSign_resultTag? : AtSign resultTag? := by
  intro t ht
  rw [Option.eq_none_iff_forall_ne_some]
  rintro ⟨type, rest⟩ h
  obtain ⟨body, w, hw, -, rfl⟩ := resultTag?_eq_some_iff.1 h
  cases hw with
  | intro => exact ht rfl

/-! ## What is stated -/

/-- A text holds a parameter tag. -/
def HasParameterTag (t : Text) : Prop :=
  ∃ before w rest name body, t = before ++ (w ++ rest) ∧ ParameterTag name body w

/-- The leftmost result tag of a text has `body` between its braces. -/
def FirstResult (t body : Text) : Prop :=
  ∃ before w rest, t = before ++ (w ++ rest) ∧ ResultTag body w ∧
    ∀ before' w' rest' body', t = before' ++ (w' ++ rest') → ResultTag body' w' →
      before.length ≤ before'.length

/-- A text holds a parameter tag, or the type in its first result tag is not blank. -/
def States (t : Text) : Prop :=
  HasParameterTag t ∨ ∃ body, FirstResult t body ∧ Text.isBlank body = false

/-- A tag is read where a parameter tag stands, even if its name goes on behind it. -/
theorem exists_parameterTag? {name body w : Text} (h : ParameterTag name body w) (rest : Text) :
    ∃ a rest', parameterTag? (w ++ rest) = some (a, rest') := by
  cases h with
  | @intro gap₁ gap₂ hgap₁ hne hfree hgap₂ hname =>
  have hlonger : IsName (name ++ rest.takeWhile isWord) := by
    refine ⟨by simp [hname.1], fun c hc => ?_⟩
    rcases List.mem_append.1 hc with hc | hc
    · exact hname.2 c hc
    · exact List.mem_takeWhile_imp hc
  refine ⟨(_, _), rest.dropWhile isWord, parameterTag?_eq_some_iff.2
    ⟨body, _, .intro hgap₁ hne hfree hgap₂ hlonger, rfl, ?_, Text.startsWithWord_dropWhile rest⟩⟩
  simp [List.takeWhile_append_dropWhile]

theorem parameters_ofText_ne_nil_iff {t : Text} :
    (ofText t).parameters ≠ [] ↔ HasParameterTag t := by
  rw [ofText, Ne, Place.scan_eq_nil_iff (proper_atPlace consumes_parameterTag?)]
  push Not
  constructor
  · rintro ⟨m, hm⟩
    obtain ⟨before, w, rest, ht, -, -, hr⟩ := (matchIn_atPlace_iff consumes_parameterTag?).1 hm
    obtain ⟨body, w', hw', -, hw, -⟩ := parameterTag?_eq_some_iff.1 hr
    exact ⟨before, w', rest, _, body, by rw [ht, hw], hw'⟩
  · rintro ⟨before, w, rest, name, body, ht, hw⟩
    obtain ⟨a, rest', hr⟩ := exists_parameterTag? hw rest
    obtain ⟨c, u, hu⟩ := consumes_parameterTag? _ _ _ hr
    refine ⟨⟨before.length, a, before.length + (c :: u).length⟩,
      (matchIn_atPlace_iff consumes_parameterTag?).2
        ⟨before, c :: u, rest', by rw [ht, hu], rfl, rfl, by rw [← hu, hr]⟩⟩

theorem result_ofText_eq_some_iff {t type : Text} :
    (ofText t).result = some type ↔ ∃ body, FirstResult t body ∧ type = Text.trim body := by
  have hplace (m : Match Text) := matchIn_atPlace_iff (m := m) (t := t) consumes_resultTag?
  rw [ofText, Place.head?_scan_eq_some_iff (proper_atPlace consumes_resultTag?)]
  constructor
  · rintro ⟨m, hm, rfl, hleast⟩
    obtain ⟨before, w, rest, ht, hs, -, hr⟩ := (hplace m).1 hm
    obtain ⟨body, w', hw', htype, hw⟩ := resultTag?_eq_some_iff.1 hr
    refine ⟨body, ⟨before, w', rest, by rw [ht, hw], hw', ?_⟩, htype⟩
    intro before' v rest' body' ht' hv
    rw [← hs]
    exact hleast ⟨before'.length, Text.trim body', before'.length + v.length⟩ ((hplace _).2
      ⟨before', v, rest', ht', rfl, rfl, resultTag?_eq_some_iff.2 ⟨body', v, hv, rfl, rfl⟩⟩)
  · rintro ⟨body, ⟨before, w, rest, ht, hw, hleast⟩, rfl⟩
    refine ⟨⟨before.length, Text.trim body, before.length + w.length⟩, (hplace _).2
      ⟨before, w, rest, ht, rfl, rfl, resultTag?_eq_some_iff.2 ⟨body, w, hw, rfl, rfl⟩⟩, rfl, ?_⟩
    intro k hk
    obtain ⟨before', v, rest', ht', hs, -, hr⟩ := (hplace k).1 hk
    obtain ⟨body', v', hv', -, hv⟩ := resultTag?_eq_some_iff.1 hr
    rw [hs]
    exact hleast before' v' rest' body' (by rw [ht', hv]) hv'

/-- Reading the tags of a text tells whether it states a type. -/
theorem stated_ofText_iff {t : Text} : (ofText t).stated = true ↔ States t := by
  have hresult : ((ofText t).result.getD [] != []) = true ↔
      ∃ body, FirstResult t body ∧ Text.isBlank body = false := by
    rw [bne_iff_ne]
    constructor
    · intro h
      cases hr : (ofText t).result with
      | none => rw [hr] at h; exact absurd rfl h
      | some type =>
        obtain ⟨body, hbody, rfl⟩ := result_ofText_eq_some_iff.1 hr
        rw [hr, Option.getD_some, Ne, Text.trim_eq_nil_iff, Bool.not_eq_true] at h
        exact ⟨body, hbody, h⟩
    · rintro ⟨body, hbody, hblank⟩
      rw [result_ofText_eq_some_iff.2 ⟨body, hbody, rfl⟩, Option.getD_some, Ne,
        Text.trim_eq_nil_iff, hblank]
      simp
  rw [stated, Bool.or_eq_true, hresult, States, ← parameters_ofText_ne_nil_iff]
  simp

end BlazorBridge.TypeTags

import BlazorBridge.Proofs.Declaration.Overlaps

/-!
# Keywords in front of a candidate

The documentation of a candidate is looked for from its offset upwards, so a keyword that is left in
front of the offset stands between a declaration and its block. The scans take the leading keywords
along: a declaration with one keyword more in front of it is a declaration as well (`Extends`), it
begins further to the left, and no other declaration hides it, since none ends inside a keyword
(`Ends`).

Each keyword is taken once, and the export keyword only as the first. Main statement
(`keyword_before_out_of_place`): a keyword is left in front of a candidate only where the candidate
itself begins with the same keyword or with one that must come first. That does happen
(`repeated_keyword_left`).
-/

namespace BlazorBridge.Signature

open BlazorBridge.Text (IsName)

/-- A keyword and white space stand at the front of a text. -/
def LedBy (word t : Text) : Prop := ∃ w rest, KeywordForm word w ∧ t = w ++ rest

/-- A text ends with a keyword, as a whole word, and the white space behind it. -/
def EndsWithKeyword (word t : Text) : Prop :=
  ∃ front w, t = front ++ w ∧ KeywordForm word w ∧ front.getLast?.any isWord = false

theorem LedBy.append {word t : Text} (h : LedBy word t) (u : Text) : LedBy word (t ++ u) := by
  obtain ⟨w, rest, hw, rfl⟩ := h
  exact ⟨w, rest ++ u, hw, List.append_assoc w rest u⟩

/-- A keyword consists of word characters and white space. -/
theorem KeywordForm.isWord_or_isBlank {word w : Text} (hword : IsName word) (h : KeywordForm word w)
    {c : Char} (hc : c ∈ w) : isWord c = true ∨ isBlank c = true := by
  obtain ⟨gap, hgap, rfl⟩ := h
  rcases List.mem_append.1 hc with hc | hc
  · exact Or.inl (hword.2 c hc)
  · exact Or.inr (Text.isBlank_iff.1 hgap.2 c hc)

theorem KeywordForm.startsWithWord {word w : Text} (hword : IsName word) (h : KeywordForm word w) :
    Text.startsWithWord w = true := by
  obtain ⟨gap, -, rfl⟩ := h
  exact hword.startsWithWord_append gap

theorem KeywordForm.ne_nil {word w : Text} (hword : IsName word) (h : KeywordForm word w) :
    w ≠ [] := by
  obtain ⟨gap, -, rfl⟩ := h
  exact List.append_ne_nil_of_left_ne_nil hword.1 gap

/-! ## Where declarations end -/

/-- Every declaration of a grammar ends with a sign that is neither white space nor a word character,
and white space behind it. -/
def Ends (form : Signature → Text → Text → Prop) : Prop :=
  ∀ s rest w, form s rest w → ∃ front sign space, w = front ++ sign :: space ∧
    isWord sign = false ∧ isBlank sign = false ∧ Text.isBlank space = true

theorem ends_function : Ends fun s _ w => FunctionForm s w := by
  intro s rest w h
  cases h with
  | @intro exported w₁ w₂ w₃ w₄ w₅ w₆ w₇ =>
  exact ⟨[w₁, w₂, w₃, s.name, w₄, ['('], s.parameters, [')'], w₅, w₆, w₇].flatten, '{', [],
    by simp, by decide, by decide, rfl⟩

theorem ends_arrow : Ends ArrowForm := by
  intro s rest w h
  cases h with
  | @intro head tail harrow htail =>
  cases htail with
  | @brace w space => exact ⟨head ++ w, '{', [], by simp, by decide, by decide, rfl⟩
  | bare space =>
    cases harrow with
    | @intro exported binder w₁ w₂ w₃ w₄ w₅ w₆ w₇ w₈ =>
    exact ⟨[w₁, w₂, s.name, w₃, ['='], w₄, w₅, ['('], s.parameters, [')'], w₆, w₇, w₈, ['=']].flatten,
      '>', tail, by simp, by decide, by decide, space⟩

variable {read : Text → Option (Signature × Text)} {form : Signature → Text → Text → Prop}

/-- A declaration that reaches into a keyword goes on behind it. -/
theorem Ends.eq_nil_of_prefix (he : Ends form) {s : Signature} {rest a b k word : Text}
    (h : form s rest (a ++ b)) (hword : IsName word) (hk : KeywordForm word k) (hb : b <+: k) :
    b = [] := by
  obtain ⟨front, sign, space, heq, hsign, hsolid, hspace⟩ := he s rest _ h
  have hfree : sign ∉ b := by
    intro hmem
    have hkind := hk.isWord_or_isBlank hword (hb.subset hmem)
    simp [hsign, hsolid] at hkind
  cases b with
  | nil => rfl
  | cons c b =>
    have hc : isWord c = true := by
      obtain ⟨v, rfl⟩ := hb
      exact hk.startsWithWord hword
    -- The last sign does not stand in the keyword, so the keyword would begin with white space.
    obtain ⟨u, rfl⟩ : ∃ u, space = u ++ c :: b := by
      rcases List.append_eq_append_iff.1 heq with ⟨u, -, hu⟩ | ⟨u, -, hu⟩
      · rw [hu] at hfree
        exact absurd (by simp) hfree
      · cases u with
        | nil =>
          rw [List.nil_append] at hu
          rw [← hu] at hfree
          exact absurd (by simp) hfree
        | cons d u => exact ⟨u, (List.cons.inj hu).2⟩
    have hblank := Text.isBlank_iff.1 hspace c (by simp)
    rw [isWord_of_isBlank hblank] at hc
    exact absurd hc (by simp)

/-- In a text, a declaration that begins before a keyword and reaches into it ends behind it. -/
theorem Ends.lt_stop (he : Ends form) {front k rest word : Text} (hword : IsName word)
    (hk : KeywordForm word k) {l : Match Signature} (hl : Starts form (front ++ (k ++ rest)) l)
    (hstart : l.start < front.length) (hstop : front.length < l.stop) :
    front.length + k.length < l.stop := by
  obtain ⟨before, w, after, ht, hls, hle, -, hform⟩ := hl
  by_contra hshort
  obtain ⟨a, rfl⟩ : before <+: front :=
    List.prefix_of_prefix_length_le ⟨_, ht.symm⟩ (List.prefix_append _ _) (by omega)
  rw [List.append_assoc, List.append_cancel_left_eq] at ht
  rw [List.length_append] at hstop hshort
  -- The declaration goes on up to the keyword, and ends with a part `b` of it.
  obtain ⟨b, rfl⟩ : a <+: w :=
    List.prefix_of_prefix_length_le ⟨_, ht⟩ (List.prefix_append _ _) (by omega)
  rw [List.append_assoc, List.append_cancel_left_eq] at ht
  rw [List.length_append] at hle
  have hb : b <+: k :=
    List.prefix_of_prefix_length_le ⟨_, ht.symm⟩ (List.prefix_append _ _) (by omega)
  have hnil := congrArg List.length (he.eq_nil_of_prefix hform hword hk hb)
  rw [List.length_nil] at hnil
  omega

/-! ## One keyword more -/

/-- A declaration with `word` in front of it is a declaration as well, unless it is one of `P`. -/
def Extends (form : Signature → Text → Text → Prop) (word : Text) (P : Text → Prop) : Prop :=
  ∀ s rest w k, form s rest w → KeywordForm word k → P w ∨ ∃ s', form s' rest (k ++ w)

theorem extends_function_export :
    Extends (fun s _ w => FunctionForm s w) "export".toList (LedBy "export".toList) := by
  intro s rest w k h hk
  cases h with
  | @intro exported w₁ w₂ w₃ w₄ w₅ w₆ w₇ h₁ h₂ h₃ hname h₄ hlist h₅ h₆ h₇ =>
  cases h₁ with
  | given h₁ => exact Or.inl ⟨w₁, _, h₁, rfl⟩
  | absent => exact Or.inr ⟨s, .intro (.given hk) h₂ h₃ hname h₄ hlist h₅ h₆ h₇⟩

theorem extends_function_async :
    Extends (fun s _ w => FunctionForm s w) "async".toList
      fun w => LedBy "export".toList w ∨ LedBy "async".toList w := by
  intro s rest w k h hk
  cases h with
  | @intro exported w₁ w₂ w₃ w₄ w₅ w₆ w₇ h₁ h₂ h₃ hname h₄ hlist h₅ h₆ h₇ =>
  cases h₁ with
  | given h₁ => exact Or.inl (Or.inl ⟨w₁, _, h₁, rfl⟩)
  | absent =>
    generalize hasync : s.isAsync = own at h₂
    cases h₂ with
    | given h₂ => exact Or.inl (Or.inr ⟨w₂, _, h₂, rfl⟩)
    | absent =>
      have hlong : FunctionForm { s with isAsync := true }
          [[], k, w₃, s.name, w₄, ['('], s.parameters, [')'], w₅, w₆, w₇, ['{']].flatten :=
        .intro .absent (.given hk) h₃ hname h₄ hlist h₅ h₆ h₇
      exact Or.inr ⟨_, hlong⟩

theorem extends_arrow_export :
    Extends ArrowForm "export".toList (LedBy "export".toList) := by
  intro s rest w k h hk
  cases h with
  | @intro head tail harrow htail hlongest =>
  cases harrow with
  | @intro exported binder w₁ w₂ w₃ w₄ w₅ w₆ w₇ w₈ h₁ hbound h₂ hname h₃ h₄ h₅ hlist h₆ h₇ h₈ =>
  cases h₁ with
  | given h₁ => exact Or.inl (LedBy.append ⟨w₁, _, h₁, rfl⟩ tail)
  | absent =>
    rw [← List.append_assoc]
    exact Or.inr ⟨s, .intro (.intro (.given hk) hbound h₂ hname h₃ h₄ h₅ hlist h₆ h₇ h₈) htail hlongest⟩

/-- A start that is selected has a keyword in front of it only if it is a declaration of `P`. -/
theorem Reads.led_of_endsWithKeyword (h : Reads read form) (he : Ends form) {t : Text}
    {ks : List (Match Signature)} (hks : IsSelection (Starts form t) ks) {m : Match Signature}
    (hm : m ∈ ks) {word : Text} (hword : IsName word) {P : Text → Prop} (hext : Extends form word P)
    (hbefore : EndsWithKeyword word (t.take m.start)) :
    ∃ w rest, t.drop m.start = w ++ rest ∧ P w := by
  obtain ⟨before, w, rest, rfl, hstart, hstop, -, hform⟩ := hks.sound m hm
  rw [hstart, List.take_left] at hbefore
  obtain ⟨front, k, rfl, hk, hfront⟩ := hbefore
  rcases hext _ _ _ _ hform hk with hP | ⟨s, hlong⟩
  · exact ⟨w, rest, by rw [hstart, List.drop_left], hP⟩
  · exfalso
    -- With the keyword the declaration begins further to the left, and nothing hides it there.
    rw [List.length_append] at hstart hstop
    have ht : front ++ k ++ (w ++ rest) = front ++ (k ++ (w ++ rest)) := List.append_assoc _ _ _
    have hboundary : WordBoundary front (k ++ w ++ rest) := by
      obtain ⟨c, u, hcu, hc⟩ := h.word hlong
      rw [hcu, List.cons_append, wordBoundary_cons_iff hc]
      exact hfront
    let longer : Match Signature := ⟨front.length, s, front.length + (k ++ w).length⟩
    have hlonger : Starts form (front ++ k ++ (w ++ rest)) longer :=
      ⟨front, k ++ w, rest, by simp, rfl, rfl, hboundary, hlong⟩
    have hw := h.start_lt_stop m (hks.sound m hm)
    have hle : m.start ≤ longer.start := by
      refine hks.not_inside h.start_lt_stop hm hlonger ?_ ?_
      · simp only [longer, List.length_append]
        omega
      · intro l hl hlstart hlstop
        rw [ht] at hl
        rw [hstart]
        exact he.lt_stop hword hk hl hlstart hlstop
    have hpos := List.length_pos_iff.2 (hk.ne_nil hword)
    simp only [longer] at hle
    omega

end BlazorBridge.Signature

namespace BlazorBridge.Candidate

open Signature (EndsWithKeyword LedBy)

/-- **A keyword is left in front of a candidate only where it is out of place.** If the export keyword
stands in front of a candidate, the candidate begins with the export keyword itself. If the keyword
for asynchronous functions stands in front of a candidate for a function, the candidate begins with
one of the two. -/
theorem keyword_before_out_of_place (t : Text) (c : Candidate) (hc : c ∈ ofText t) :
    (EndsWithKeyword "export".toList (Text.upTo c.start t) →
      LedBy "export".toList (t.drop c.start.toNat)) ∧
    (c.shape = .function → EndsWithKeyword "async".toList (Text.upTo c.start t) →
      LedBy "export".toList (t.drop c.start.toNat) ∨ LedBy "async".toList (t.drop c.start.toNat)) := by
  have hexport : Text.IsName "export".toList := by decide
  have hasync : Text.IsName "async".toList := by decide
  rcases exists_selected_of_mem_ofText hc with ⟨ks, hks, m, hm, rfl⟩ | ⟨ks, hks, m, hm, rfl⟩
  · simp only [ofMatch, Text.upTo_natCast, Int.toNat_natCast]
    refine ⟨fun h => ?_, fun _ h => ?_⟩
    · obtain ⟨w, rest, hdrop, hled⟩ := Signature.reads_function.led_of_endsWithKeyword
        Signature.ends_function hks hm hexport Signature.extends_function_export h
      rw [hdrop]
      exact hled.append rest
    · obtain ⟨w, rest, hdrop, hled⟩ := Signature.reads_function.led_of_endsWithKeyword
        Signature.ends_function hks hm hasync Signature.extends_function_async h
      rw [hdrop]
      exact hled.imp (·.append rest) (·.append rest)
  · simp only [ofMatch, Text.upTo_natCast, Int.toNat_natCast]
    refine ⟨fun h => ?_, fun h => absurd h (by simp)⟩
    obtain ⟨w, rest, hdrop, hled⟩ := Signature.reads_arrow.led_of_endsWithKeyword
      Signature.ends_arrow hks hm hexport Signature.extends_arrow_export h
    rw [hdrop]
    exact hled.append rest

/-- A function whose keyword for asynchronous functions stands in front of its export keyword. -/
def misplaced : Text := "/** @returns \x7bvoid\x7d */\nasync export function f() \x7b\x7d".toList

theorem misplaced_keyword_led :
    ∃ c ∈ ofText misplaced, c.shape = .function ∧
      EndsWithKeyword "async".toList (Text.upTo c.start misplaced) ∧
      (LedBy "export".toList (misplaced.drop c.start.toNat) ∨
        LedBy "async".toList (misplaced.drop c.start.toNat)) := by
  let c : Candidate := ⟨"f".toList, [], [], 29, 50, true, .function⟩
  have hc : c ∈ ofText misplaced := by
    rw [ofText_eq_functions (by decide +kernel)]
    decide +kernel
  have hbefore : EndsWithKeyword "async".toList (Text.upTo c.start misplaced) :=
    ⟨"/** @returns \x7bvoid\x7d */\n".toList, "async ".toList, by decide +kernel,
      ⟨[' '], by decide, rfl⟩, by decide +kernel⟩
  exact ⟨c, hc, rfl, hbefore, (keyword_before_out_of_place misplaced c hc).2 rfl hbefore⟩

/-- A keyword that stands twice is left in front of a candidate, either of the two. -/
theorem repeated_keyword_left :
    (¬ ∀ (t : Text) (c : Candidate), c ∈ ofText t →
      ¬ EndsWithKeyword "export".toList (Text.upTo c.start t)) ∧
    ¬ ∀ (t : Text) (c : Candidate), c ∈ ofText t → c.shape = .function →
      ¬ EndsWithKeyword "async".toList (Text.upTo c.start t) := by
  constructor
  · intro h
    have hc : ⟨"f".toList, [], [], 7, 28, false, .function⟩ ∈
        ofText "export export function f() \x7b\x7d".toList := by
      rw [ofText_eq_functions (by decide +kernel)]
      decide +kernel
    refine h _ _ hc ?_
    exact ⟨[], "export ".toList, by decide +kernel, ⟨[' '], by decide, rfl⟩, rfl⟩
  · intro h
    have hc : ⟨"f".toList, [], [], 6, 26, true, .function⟩ ∈
        ofText "async async function f() \x7b\x7d".toList := by
      rw [ofText_eq_functions (by decide +kernel)]
      decide +kernel
    refine h _ _ hc rfl ?_
    exact ⟨[], "async ".toList, by decide +kernel, ⟨[' '], by decide, rfl⟩, rfl⟩

end BlazorBridge.Candidate

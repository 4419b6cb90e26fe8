import BlazorBridge.Proofs.Declaration.Overlaps
import Mathlib.Data.List.Basic

/-!
# The window in front of a candidate

A candidate counts as asynchronous also when the keyword for asynchronous functions stands in the window
of fifty characters in front of it. The window is searched for whole words as if it were a text of its
own (`hasWord_iff`). At its right edge that makes no difference, since no word character stands there. At
its left edge it does: a longer word that the edge cuts counts as the keyword when the rest of it is the
keyword.

Main statement (`async_iff_word_or_cut`): when a candidate counts as asynchronous, and that exactly such a
cut parts this from having the keyword, itself or as a whole word in the window. A function can come to
count as asynchronous by a cut (`cut_word_counts`).
-/

namespace BlazorBridge

namespace Candidate

/-! ## Whole words -/

/-- The last character of a text with one more in front is its own, or the one in front. -/
theorem any_getLast?_cons_eq_false_iff {c : Char} {a : Text} :
    (c :: a).getLast?.any isWord = false ↔
      a.getLast?.any isWord = false ∧ (a = [] → isWord c = false) := by
  cases a with
  | nil => simp
  | cons d a => simp [List.getLast?_cons_cons]

/-- Searching a text for a whole word finds the occurrences of the word with no word character around
them. -/
theorem hasWord_iff {word : Text} (hword : word ≠ []) {free : Bool} {t : Text} :
    hasWord word free t = true ↔ ∃ a b, t = a ++ (word ++ b) ∧ a.getLast?.any isWord = false ∧
      (a = [] → free = true) ∧ Text.startsWithWord b = false := by
  induction t generalizing free with
  | nil => simp [hasWord, hword]
  | cons c t ih =>
    rw [hasWord, Bool.or_eq_true, ih, Bool.and_eq_true]
    constructor
    · rintro (⟨hfree, hfront⟩ | ⟨a, b, rfl, ha, hc, hb⟩)
      · cases hafter : Text.after? word (c :: t) with
        | none => simp [hafter] at hfront
        | some b =>
          rw [hafter] at hfront
          rw [Text.after?_eq_some_iff.1 hafter]
          exact ⟨[], b, rfl, rfl, fun _ => hfree, by simpa using hfront⟩
      · exact ⟨c :: a, b, rfl, any_getLast?_cons_eq_false_iff.2 ⟨ha, by simpa using hc⟩, by simp, hb⟩
    · rintro ⟨a, b, heq, ha, hfree, hb⟩
      cases a with
      | nil =>
        rw [List.nil_append] at heq
        rw [heq, Text.after?_append]
        exact Or.inl ⟨hfree rfl, by simp [hb]⟩
      | cons d a =>
        obtain ⟨rfl, rfl⟩ := List.cons.inj heq
        obtain ⟨ha, hc⟩ := any_getLast?_cons_eq_false_iff.1 ha
        exact Or.inr ⟨a, b, rfl, ha, by simpa using hc, hb⟩

/-! ## The window -/

/-- The keyword stands in a text as a whole word, and within the fifty characters in front of `n`. -/
def WordInWindow (t : Text) (n : Int) : Prop :=
  ∃ a b, t = a ++ ("async".toList ++ b) ∧ a.getLast?.any isWord = false ∧
    Text.startsWithWord b = false ∧ n ≤ a.length + 50 ∧ a.length + 5 ≤ n

/-- The keyword is the end of a longer word of a text, and begins fifty characters in front of `n`. -/
def WordCutByWindow (t : Text) (n : Int) : Prop :=
  ∃ a b, t = a ++ ("async".toList ++ b) ∧ a.getLast?.any isWord = true ∧
    Text.startsWithWord b = false ∧ n = a.length + 50

/-- A text goes on with a word character exactly as it would if it ended behind its next part. -/
theorem startsWithWord_append_of_ne_nil {b : Text} (hb : b ≠ []) (after : Text) :
    Text.startsWithWord (b ++ after) = Text.startsWithWord b := by
  cases b with
  | nil => exact absurd rfl hb
  | cons c b => rfl

section Window

-- A text in three parts: what stands in front of the window, the window, and what follows it.
variable {front window after : Text}

theorem length_async : "async".toList.length = 5 := rfl

/-- What is found in the window is the keyword as a whole word, or the rest of a word that is cut. -/
theorem word_or_cut_of_hasWord (hend : (front ++ window).getLast?.any isWord = false)
    (hfull : front ≠ [] → window.length = 50) (hlength : window.length ≤ 50)
    (h : hasWord "async".toList true window = true) :
    WordInWindow (front ++ window ++ after) (front ++ window).length ∨
      WordCutByWindow (front ++ window ++ after) (front ++ window).length := by
  obtain ⟨a, b, rfl, ha, -, hb⟩ := (hasWord_iff (by decide)).1 h
  have hne : b ≠ [] := by
    rintro rfl
    have hlast : (front ++ (a ++ ("async".toList ++ []))).getLast? = some 'c' := by simp
    rw [hlast] at hend
    exact absurd hend (by decide)
  have hsplit : front ++ (a ++ ("async".toList ++ b)) ++ after =
      (front ++ a) ++ ("async".toList ++ (b ++ after)) := by simp
  have hfree : Text.startsWithWord (b ++ after) = false := by
    rw [startsWithWord_append_of_ne_nil hne, hb]
  simp only [List.length_append, length_async] at hfull hlength ⊢
  cases hcut : (front ++ a).getLast?.any isWord with
  | false =>
    refine Or.inl ⟨front ++ a, b ++ after, hsplit, hcut, hfree, ?_, ?_⟩
    · rw [List.length_append]
      omega
    · rw [List.length_append]
      omega
  | true =>
    -- No word character stands in front of it in the window, so it begins the window.
    have hedge : a = [] := by
      by_contra hne
      rw [List.getLast?_append_of_ne_nil _ hne, ha] at hcut
      exact absurd hcut (by simp)
    subst hedge
    have hfront : front ≠ [] := by
      rintro rfl
      exact absurd hcut (by simp)
    refine Or.inr ⟨front ++ [], b ++ after, hsplit, hcut, hfree, ?_⟩
    have := hfull hfront
    simp only [List.append_nil, List.length_nil] at this ⊢
    omega

/-- An occurrence that lies in the window is found if no word character stands in front of it there. -/
theorem hasWord_of_split {a b : Text}
    (hsplit : front ++ window ++ after = front ++ a ++ ("async".toList ++ b))
    (hlength : a.length + 5 ≤ window.length) (ha : a.getLast?.any isWord = false)
    (hb : Text.startsWithWord b = false) : hasWord "async".toList true window = true := by
  rw [List.append_assoc, List.append_assoc, List.append_cancel_left_eq, ← List.append_assoc] at hsplit
  obtain ⟨v, rfl⟩ : a ++ "async".toList <+: window := by
    refine List.prefix_of_prefix_length_le ⟨b, hsplit.symm⟩ (List.prefix_append _ _) ?_
    rw [List.length_append, length_async]
    exact hlength
  rw [List.append_assoc, List.append_cancel_left_eq] at hsplit
  refine (hasWord_iff (by decide)).2 ⟨a, v, List.append_assoc _ _ _, ha, fun _ => rfl, ?_⟩
  cases v with
  | nil => rfl
  | cons c v =>
    rw [← hsplit] at hb
    exact hb

theorem hasWord_of_wordInWindow (hfull : front ≠ [] → window.length = 50)
    (h : WordInWindow (front ++ window ++ after) (front ++ window).length) :
    hasWord "async".toList true window = true := by
  obtain ⟨a, b, hsplit, ha, hb, hlow, hhigh⟩ := h
  rw [List.length_append] at hlow hhigh
  obtain ⟨u, rfl⟩ : front <+: a := by
    by_cases hfront : front = []
    · rw [hfront]
      exact List.nil_prefix
    · have := hfull hfront
      refine List.prefix_of_prefix_length_le ⟨window ++ after, ?_⟩ ⟨_, hsplit.symm⟩ (by omega)
      exact (List.append_assoc _ _ _).symm
  rw [List.length_append] at hhigh
  refine hasWord_of_split hsplit (by omega) ?_ hb
  by_cases hu : u = []
  · rw [hu]
    rfl
  · rwa [List.getLast?_append_of_ne_nil _ hu] at ha

theorem hasWord_of_wordCutByWindow (hfull : front ≠ [] → window.length = 50)
    (hlength : window.length ≤ 50)
    (h : WordCutByWindow (front ++ window ++ after) (front ++ window).length) :
    hasWord "async".toList true window = true := by
  obtain ⟨a, b, hsplit, ha, hb, hn⟩ := h
  have hne : 0 < a.length := by
    rw [List.length_pos_iff]
    rintro rfl
    exact absurd ha (by simp)
  rw [List.length_append] at hn
  have hfront : front ≠ [] := by
    rw [← List.length_pos_iff]
    omega
  have hlong := hfull hfront
  have hsplit' : front ++ window ++ after = front ++ [] ++ ("async".toList ++ b) := by
    have hfrontEq : front = a := by
      rw [List.append_assoc] at hsplit
      exact (List.append_inj hsplit (by omega)).1
    rw [List.append_nil, hsplit, hfrontEq]
  refine hasWord_of_split hsplit' ?_ rfl hb
  rw [List.length_nil]
  omega

end Window

/-- The window in front of a place is what stands there, or the last fifty characters of it. -/
theorem exists_window (before : Text) :
    ∃ front window, before = front ++ window ∧ (before.reverse.take asyncWindow).reverse = window ∧
      (front ≠ [] → window.length = 50) ∧ window.length ≤ 50 := by
  refine ⟨before.take (before.length - 50), before.drop (before.length - 50),
    (List.take_append_drop _ _).symm, ?_, ?_, ?_⟩
  · rw [List.take_reverse, List.reverse_reverse]
    rfl
  · intro hne
    have hpos := List.length_pos_iff.2 hne
    rw [List.length_take] at hpos
    rw [List.length_drop]
    omega
  · rw [List.length_drop]
    omega

/-- The keyword is found in the window in front of a place where no word ends. -/
theorem asyncBefore_iff {before : Text} (hend : before.getLast?.any isWord = false) (after : Text) :
    asyncBefore (Place.ofOffset (before ++ after) before.length) = true ↔
      WordInWindow (before ++ after) before.length ∨ WordCutByWindow (before ++ after) before.length := by
  rw [Place.ofOffset_append, asyncBefore]
  obtain ⟨front, window, rfl, hwindow, hfull, hlength⟩ := exists_window before
  dsimp only
  rw [hwindow]
  constructor
  · exact word_or_cut_of_hasWord hend hfull hlength
  · rintro (h | h)
    · exact hasWord_of_wordInWindow hfull h
    · exact hasWord_of_wordCutByWindow hfull hlength h

/-! ## Candidates -/

/-- The starts of a shape. -/
def StartOf (t : Text) : Shape → Match Signature → Prop
  | .function => Signature.FunctionStart t
  | .arrow => Signature.ArrowStart t
  | .other _ => fun _ => False

/-- The declaration of a candidate carries the keyword itself. -/
def CarriesAsync (t : Text) (c : Candidate) : Prop :=
  ∃ m, StartOf t c.shape m ∧ (m.start : Int) = c.start ∧ m.found.isAsync = true

/-- What makes the candidate for a start asynchronous. -/
theorem isAsync_ofMatch_iff {read : Text → Option (Signature × Text)}
    {form : Signature → Text → Text → Prop} (h : Signature.Reads read form) {t : Text} {shape : Shape}
    (hshape : StartOf t shape = Signature.Starts form t) {m : Match Signature}
    (hm : Signature.Starts form t m) :
    (ofMatch shape t m).isAsync = true ↔
      CarriesAsync t (ofMatch shape t m) ∨ WordInWindow t m.start ∨ WordCutByWindow t m.start := by
  have hown : m.found.isAsync = true ↔ CarriesAsync t (ofMatch shape t m) := by
    constructor
    · intro hasync
      exact ⟨m, hshape ▸ hm, rfl, hasync⟩
    · rintro ⟨l, hl, heq, hasync⟩
      have hl : Signature.Starts form t l := hshape ▸ hl
      rwa [h.starts_eq hl hm (Int.ofNat.inj heq)] at hasync
  obtain ⟨before, w, rest, rfl, hstart, -, hboundary, hform⟩ := hm
  have hend : before.getLast?.any isWord = false := by
    obtain ⟨c, u, rfl, hc⟩ := h.word hform
    exact (wordBoundary_cons_iff hc).1 hboundary
  rw [← hown, ofMatch, Bool.or_eq_true, hstart, asyncBefore_iff hend]

/-- **A candidate counts as asynchronous by its keyword, by a whole word in the window, or by a cut.**
Exactly where a cut is all that there is, it counts as asynchronous though neither its declaration nor a
whole word of the text within the window says so. -/
theorem async_iff_word_or_cut (t : Text) (c : Candidate) (hc : c ∈ ofText t) :
    (c.isAsync = true ↔
      CarriesAsync t c ∨ WordInWindow t c.start ∨ WordCutByWindow t c.start) ∧
    ((c.isAsync = true ↔ CarriesAsync t c ∨ WordInWindow t c.start) ↔
      (WordCutByWindow t c.start → CarriesAsync t c ∨ WordInWindow t c.start)) := by
  have hasync : c.isAsync = true ↔
      CarriesAsync t c ∨ WordInWindow t c.start ∨ WordCutByWindow t c.start := by
    rcases exists_selected_of_mem_ofText hc with ⟨ks, hks, m, hm, rfl⟩ | ⟨ks, hks, m, hm, rfl⟩
    · exact isAsync_ofMatch_iff Signature.reads_function rfl (hks.sound m hm)
    · exact isAsync_ofMatch_iff Signature.reads_arrow rfl (hks.sound m hm)
  refine ⟨hasync, ?_⟩
  rw [hasync]
  tauto

theorem async_note_counts :
    ∃ c ∈ ofText "/* async */ function f() \x7b\x7d".toList,
      WordInWindow "/* async */ function f() \x7b\x7d".toList c.start ∧ c.isAsync = true := by
  let c : Candidate := ⟨"f".toList, [], [], 12, 26, true, .function⟩
  have hc : c ∈ ofText "/* async */ function f() \x7b\x7d".toList := by
    rw [ofText_eq_functions (by decide +kernel)]
    decide +kernel
  have hword : WordInWindow "/* async */ function f() \x7b\x7d".toList c.start :=
    ⟨"/* ".toList, " */ function f() \x7b\x7d".toList, by decide +kernel, by decide +kernel,
      by decide +kernel, by decide, by decide⟩
  exact ⟨c, hc, hword, (async_iff_word_or_cut _ c hc).1.2 (Or.inr (Or.inl hword))⟩

/-- A call of a function whose name ends like the keyword, fifty characters in front of a declaration. -/
def pushed : Text :=
  "pushasync();\n/** Counts the rows @returns \x7bnumber\x7d */\nfunction f() \x7b\x7d\n".toList

/-- A function counts as asynchronous though neither it nor a whole word of the text says so. -/
theorem cut_word_counts :
    ¬ ∀ (t : Text) (c : Candidate), c ∈ ofText t →
      (c.isAsync = true ↔ CarriesAsync t c ∨ WordInWindow t c.start) := by
  intro h
  let c : Candidate := ⟨"f".toList, [], [], 54, 68, true, .function⟩
  have hc : c ∈ ofText pushed := by
    rw [ofText_eq_functions (by decide +kernel)]
    decide +kernel
  rcases (h pushed c hc).1 rfl with ⟨m, hm, hstart, hasync⟩ | ⟨a, b, hsplit, ha, hb, -⟩
  · have hplain : (Signature.function? (pushed.drop 54)).map (·.1.isAsync) = some false := by
      decide +kernel
    obtain ⟨rest, hread⟩ := Signature.reads_function.exists_read hm
    have hplace : m.start = 54 := Int.ofNat.inj hstart
    rw [hplace] at hread
    rw [hread, Option.map_some, hasync] at hplain
    exact absurd hplain (by simp)
  · have hnone : hasWord "async".toList true pushed = false := by decide +kernel
    rw [(hasWord_iff (by decide)).2 ⟨a, b, hsplit, ha, fun _ => rfl, hb⟩] at hnone
    exact absurd hnone (by simp)

end Candidate

end BlazorBridge

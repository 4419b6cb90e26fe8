import BlazorBridge.Naming
import BlazorBridge.Proofs.Text.Marks

/-!
# Separators in names

A run of separators parts the words of a name, and nothing else about it matters: not which separators
it holds, nor how many, nor whether it stands at an end (`words_append_break`). Two names differ only in
their separators (`Respaced`) exactly if they have the same words (`respaced_iff_words_eq`).

Main statement (`pascalCase_parts_at_separators`): Pascal case takes a name apart at every run of
separators, whatever the capital and small forms of letters are. Two names have the same Pascal case for
all such forms exactly if they differ only in their separators.
-/

namespace BlazorBridge.Naming

variable {a b s : Text} {c : Char}

/-! ## Words -/

/-- A run of separators that is not empty. -/
def IsBreak (s : Text) : Prop := s ≠ [] ∧ ∀ c ∈ s, isSeparator c = true

instance (s : Text) : Decidable (IsBreak s) :=
  decidable_of_iff (s ≠ [] ∧ s.all isSeparator = true) (by simp [IsBreak])

theorem isBreak_singleton (hc : isSeparator c = true) : IsBreak [c] := ⟨by simp, by simpa using hc⟩

theorem IsBreak.append (hs : IsBreak s) (hb : IsBreak b) : IsBreak (s ++ b) := by
  refine ⟨by simp [hs.1], fun c hc => ?_⟩
  rcases List.mem_append.1 hc with hc | hc
  · exact hs.2 c hc
  · exact hb.2 c hc

/-- A separator parts the words before it from those behind it. -/
theorem words_append_cons (hc : isSeparator c = true) (a b : Text) :
    words (a ++ c :: b) = words a ++ words b := by
  unfold words
  rw [Text.split_append_sep hc, List.filter_append]

/-- A separator at the front belongs to no word. -/
theorem words_cons_separator (hc : isSeparator c = true) (t : Text) : words (c :: t) = words t := by
  simpa [words, Text.split] using words_append_cons hc [] t

/-- Separators at the front belong to no word. -/
theorem words_append_of_separators (hs : ∀ c ∈ s, isSeparator c = true) (t : Text) :
    words (s ++ t) = words t := by
  induction s with
  | nil => rfl
  | cons c s ih =>
    rw [List.cons_append, words_cons_separator (hs c (by simp)), ih fun d hd => hs d (by simp [hd])]

/-- A run of separators parts the words before it from those behind it. -/
theorem words_append_break (hs : IsBreak s) (a b : Text) :
    words (a ++ s ++ b) = words a ++ words b := by
  obtain ⟨c, rest, rfl⟩ := List.exists_cons_of_ne_nil hs.1
  rw [List.append_assoc, List.cons_append, words_append_cons (hs.2 c (by simp)),
    words_append_of_separators fun d hd => hs.2 d (by simp [hd])]

/-- A text without separators is one word. -/
theorem words_eq_singleton (hne : a ≠ []) (ha : ∀ c ∈ a, isSeparator c = false) : words a = [a] := by
  rw [words, Text.split_eq_singleton ha]
  simp [hne]

/-- A word is not empty and holds no separator. -/
theorem ne_nil_and_not_separator {w : Text} (h : w ∈ words a) :
    w ≠ [] ∧ ∀ c ∈ w, isSeparator c = false := by
  obtain ⟨hw, hne⟩ := List.mem_filter.1 h
  exact ⟨by simpa using hne, fun c hc => Text.not_sep_of_mem_split hw hc⟩

/-! ## Names that differ only in their separators -/

/-- Names that differ only in their separators: in the kind or the number of those between two parts, or
by separators at an end. -/
inductive Respaced : Text → Text → Prop
  | refl (a : Text) : Respaced a a
  | symm {a b : Text} : Respaced a b → Respaced b a
  | trans {a b c : Text} : Respaced a b → Respaced b c → Respaced a c
  | inner {s s' : Text} (a b : Text) : IsBreak s → IsBreak s' → Respaced (a ++ s ++ b) (a ++ s' ++ b)
  | front {s : Text} (a : Text) : IsBreak s → Respaced (s ++ a) a
  | back {s : Text} (a : Text) : IsBreak s → Respaced (a ++ s) a

/-- Names that differ only in their separators have the same words. -/
theorem Respaced.words_eq (h : Respaced a b) : words a = words b := by
  induction h with
  | refl => rfl
  | symm _ ih => exact ih.symm
  | trans _ _ ih₁ ih₂ => exact ih₁.trans ih₂
  | inner a b hs hs' => rw [words_append_break hs, words_append_break hs']
  | front a hs => exact words_append_of_separators hs.2 a
  | back a hs => simpa [words, Text.split] using words_append_break hs a []

/-- Behind a run of separators a name may be respaced as if it began there. -/
theorem Respaced.behind (h : Respaced a b) (hs : IsBreak s) (t : Text) :
    Respaced (t ++ s ++ a) (t ++ s ++ b) := by
  induction h with
  | refl => exact .refl _
  | symm _ ih => exact ih.symm
  | trans _ _ ih₁ ih₂ => exact ih₁.trans ih₂
  | inner a b hs₁ hs₂ => simpa only [List.append_assoc] using Respaced.inner (t ++ s ++ a) b hs₁ hs₂
  | front a hs₁ =>
    -- What stood at the front has become a part of the run.
    simpa only [List.append_assoc] using Respaced.inner t a (hs.append hs₁) hs
  | back a hs₁ => simpa only [List.append_assoc] using Respaced.back (t ++ s ++ a) hs₁

/-- In front of a name that is respaced to its words, another word goes with one underscore. -/
theorem Respaced.join_cons {t : Text} (h : Respaced t (Text.join ['_'] (words t)))
    (hc : isSeparator c = true) (w : Text) :
    Respaced (w ++ c :: t) (Text.join ['_'] (w :: words t)) := by
  have hbreak := isBreak_singleton hc
  have hbehind := h.behind hbreak w
  rw [List.append_cons]
  cases hwords : words t with
  | nil =>
    have hback : Respaced (w ++ [c] ++ t) (w ++ [c]) := by simpa [hwords, Text.join] using hbehind
    simpa [Text.join] using hback.trans (.back w hbreak)
  | cons v vs =>
    rw [hwords] at hbehind
    have hmark : IsBreak ['_'] := by decide
    rw [Text.join_cons_cons, List.append_cons w '_']
    exact hbehind.trans (.inner w _ hbreak hmark)

/-- A name is respaced to its words with one underscore between neighbours. -/
theorem respaced_join_words (a : Text) : Respaced a (Text.join ['_'] (words a)) := by
  -- Along the name, with the word that is being read kept in front.
  suffices h : ∀ t w : Text, (∀ c ∈ w, isSeparator c = false) →
      Respaced (w ++ t) (Text.join ['_'] (words (w ++ t))) from h a [] (by simp)
  intro t
  induction t with
  | nil =>
    intro w hw
    rw [List.append_nil]
    by_cases hne : w = []
    · subst hne
      exact .refl []
    · rw [words_eq_singleton hne hw]
      simpa [Text.join] using Respaced.refl w
  | cons c t ih =>
    intro w hw
    cases hc : isSeparator c with
    | false =>
      rw [List.append_cons]
      refine ih (w ++ [c]) fun d hd => ?_
      rcases List.mem_append.1 hd with hd | hd
      · exact hw d hd
      · rwa [List.mem_singleton.1 hd]
    | true =>
      have hrest : Respaced t (Text.join ['_'] (words t)) := ih [] (by simp)
      rw [words_append_cons hc]
      by_cases hne : w = []
      · subst hne
        exact (Respaced.front t (isBreak_singleton hc)).trans hrest
      · rw [words_eq_singleton hne hw]
        exact hrest.join_cons hc w

/-- Names differ only in their separators exactly if they have the same words. -/
theorem respaced_iff_words_eq : Respaced a b ↔ words a = words b := by
  refine ⟨Respaced.words_eq, fun h => ?_⟩
  have ha := respaced_join_words a
  rw [h] at ha
  exact ha.trans (respaced_join_words b).symm

/-! ## Pascal case by any letter forms -/

variable (upper : Char → Text) (lower : Text → Text)

/-- A word with its first letter and the rest of it in the given forms. -/
def capitalizeBy : Text → Text
  | [] => []
  | c :: rest => upper c ++ lower rest

/-- The words of a name run together, in the given forms. -/
def pascalCaseBy (name : Text) : Text := (words name).flatMap (capitalizeBy upper lower)

/-- Pascal case takes capitals and small letters for these forms. -/
theorem pascalCase_eq : pascalCase = pascalCaseBy capital Text.lower := by
  have hword : capitalize = capitalizeBy capital Text.lower := by
    funext w
    cases w <;> rfl
  funext name
  rw [pascalCase, pascalCaseBy, hword]

theorem pascalCaseBy_append_break (hs : IsBreak s) (a b : Text) :
    pascalCaseBy upper lower (a ++ s ++ b) =
      pascalCaseBy upper lower a ++ pascalCaseBy upper lower b := by
  unfold pascalCaseBy
  rw [words_append_break hs, List.flatMap_append]

/-- With a mark in front of every word, the words can be read back. -/
theorem pascalCaseBy_marked (name : Text) :
    Text.split (· == '_') (pascalCaseBy (fun c => ['_', c]) id name) = [] :: words name := by
  have hmarked : pascalCaseBy (fun c => ['_', c]) id name = Text.join ['_'] ([] :: words name) := by
    rw [pascalCaseBy, Text.join_cons, List.nil_append, List.flatMap_def, List.flatMap_def]
    refine congrArg List.flatten (List.map_congr_left fun w hw => ?_)
    obtain ⟨c, rest, rfl⟩ := List.exists_cons_of_ne_nil (ne_nil_and_not_separator hw).1
    rfl
  rw [hmarked]
  refine Text.split_join (by simp) fun w hw hmem => ?_
  rcases List.mem_cons.1 hw with rfl | hw
  · simp at hmem
  · have hsep : isSeparator '_' = false := (ne_nil_and_not_separator hw).2 '_' hmem
    exact absurd hsep (by decide)

/-- **Pascal case parts a name at its separators.** Whatever the capital and small forms of letters are,
a run of separators between two names takes their Pascal cases apart. Two names have the same Pascal case
for all forms exactly if they differ only in their separators. -/
theorem pascalCase_parts_at_separators :
    pascalCase = pascalCaseBy capital Text.lower ∧
    (∀ upper lower a b s, IsBreak s →
      pascalCaseBy upper lower (a ++ s ++ b) =
        pascalCaseBy upper lower a ++ pascalCaseBy upper lower b) ∧
    ∀ a b, Respaced a b ↔ ∀ upper lower, pascalCaseBy upper lower a = pascalCaseBy upper lower b := by
  refine ⟨pascalCase_eq, fun upper lower a b s hs => pascalCaseBy_append_break upper lower hs a b,
    fun a b => ⟨fun h upper lower => ?_, fun h => ?_⟩⟩
  · rw [pascalCaseBy, pascalCaseBy, h.words_eq]
  · have hsplit := congrArg (Text.split (· == '_')) (h (fun c => ['_', c]) id)
    rw [pascalCaseBy_marked, pascalCaseBy_marked] at hsplit
    exact respaced_iff_words_eq.2 (List.cons.inj hsplit).2

/-- Three separators in place of one, and none at the front. -/
theorem pascalCase_parts_chart_utils :
    IsBreak "_ .".toList ∧
      pascalCase "chart_ .utils".toList = pascalCase "chart".toList ++ pascalCase "utils".toList ∧
      Respaced "-chart.utils".toList "chart_ .utils".toList ∧
      pascalCase "-chart.utils".toList = pascalCase "chart_ .utils".toList := by
  obtain ⟨heq, happend, hrespaced⟩ := pascalCase_parts_at_separators
  have hbreak : IsBreak "_ .".toList := by decide
  have hchart : Respaced "-chart.utils".toList "chart_ .utils".toList :=
    .trans (.front "chart.utils".toList (isBreak_singleton (c := '-') rfl))
      (.inner "chart".toList "utils".toList (isBreak_singleton (c := '.') rfl) hbreak)
  rw [heq]
  exact ⟨hbreak, happend _ _ "chart".toList "utils".toList _ hbreak, hchart,
    (hrespaced _ _).1 hchart _ _⟩

end BlazorBridge.Naming

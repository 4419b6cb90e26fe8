import BlazorBridge.Proofs.Declaration.Starts

/-!
# Where no declaration begins

In front of its parameter list a declaration has nothing but word characters, white space and, if it
is an arrow, one equals sign. What stands up to the next opening parenthesis therefore tells at many
places that no declaration begins there: a part of a text that ends with another character adds
nothing to a scan (`scanFrom_barred`), and neither does a part without an equals sign to a scan for
arrows (`scanFrom_unbound`).
-/

namespace BlazorBridge

namespace Signature

/-! ## In front of the parameter list -/

/-- A text of characters that can stand in front of a parameter list. -/
def IsLead (t : Text) : Prop := ∀ c ∈ t, isWord c = true ∨ isBlank c = true ∨ c = '='

instance (t : Text) : Decidable (IsLead t) :=
  decidable_of_iff (t.all fun c => isWord c || isBlank c || c == '=') (by simp [IsLead, or_assoc])

theorem isLead_append {a b : Text} : IsLead (a ++ b) ↔ IsLead a ∧ IsLead b := by
  simp only [IsLead, List.mem_append, or_imp, forall_and]

theorem isLead_of_isBlank {w : Text} (h : Text.isBlank w = true) : IsLead w :=
  fun c hc => Or.inr (Or.inl (Text.isBlank_iff.1 h c hc))

theorem isLead_of_isName {w : Text} (h : Text.IsName w) : IsLead w :=
  fun c hc => Or.inl (h.2 c hc)

theorem KeywordForm.isLead {word w : Text} (h : KeywordForm word w)
    (hword : IsLead word) : IsLead w := by
  obtain ⟨gap, hgap, rfl⟩ := h
  exact isLead_append.2 ⟨hword, isLead_of_isBlank hgap.2⟩

theorem OptionalForm.isLead {word w : Text} {given : Bool} (h : OptionalForm word given w)
    (hword : IsLead word) : IsLead w := by
  cases h with
  | absent => exact fun c hc => absurd hc (by simp)
  | given h => exact h.isLead hword

theorem FunctionForm.exists_lead {s : Signature} {w : Text} (h : FunctionForm s w) :
    ∃ lead tail, w = lead ++ '(' :: tail ∧ IsLead lead := by
  cases h with
  | @intro exported w₁ w₂ w₃ w₄ w₅ w₆ w₇ h₁ h₂ h₃ hname h₄ =>
  refine ⟨w₁ ++ (w₂ ++ (w₃ ++ (s.name ++ w₄))), [s.parameters, [')'], w₅, w₆, w₇, ['{']].flatten,
    by simp, ?_⟩
  simp only [isLead_append]
  exact ⟨h₁.isLead (by decide), h₂.isLead (by decide), h₃.isLead (by decide),
    isLead_of_isName hname, isLead_of_isBlank h₄⟩

theorem ArrowForm.exists_lead {s : Signature} {rest w : Text} (h : ArrowForm s rest w) :
    ∃ lead tail, w = lead ++ '(' :: tail ∧ IsLead lead ∧ '=' ∈ lead := by
  cases h with
  | @intro head tail harrow =>
  cases harrow with
  | @intro exported binder w₁ w₂ w₃ w₄ w₅ w₆ w₇ w₈ h₁ hbound h₂ hname h₃ h₄ h₅ =>
  have hbinders : ∀ b ∈ binders, IsLead b := by decide
  refine ⟨w₁ ++ (w₂ ++ (s.name ++ (w₃ ++ (['='] ++ (w₄ ++ w₅))))),
    [s.parameters, [')'], w₆, w₇, w₈, ['=', '>'], tail].flatten, by simp, ?_, by simp⟩
  simp only [isLead_append]
  exact ⟨h₁.isLead (by decide), h₂.isLead (hbinders binder hbound), isLead_of_isName hname,
    isLead_of_isBlank h₃, by decide, isLead_of_isBlank h₄, h₅.isLead (by decide)⟩

/-- Every declaration of a grammar has a lead and a parameter list behind it. -/
def Opens (form : Signature → Text → Text → Prop) : Prop :=
  ∀ s rest w, form s rest w → ∃ lead tail, w = lead ++ '(' :: tail ∧ IsLead lead

theorem opens_function : Opens fun s _ w => FunctionForm s w := by
  intro s rest w h
  exact h.exists_lead

theorem opens_arrow : Opens ArrowForm := by
  intro s rest w h
  obtain ⟨lead, tail, hw, hlead, -⟩ := h.exists_lead
  exact ⟨lead, tail, hw, hlead⟩

/-- A lead goes up to the first opening parenthesis. -/
theorem IsLead.takeWhile_append {lead : Text} (h : IsLead lead) (tail : Text) :
    (lead ++ '(' :: tail).takeWhile (· != '(') = lead := by
  have hparen : '(' ∉ lead := fun hc => absurd (h '(' hc) (by decide)
  rw [Text.takeWhile_ne_append hparen, List.takeWhile_cons_of_neg (by simp), List.append_nil]

/-! ## Places where nothing is read -/

variable {read : Text → Option (Signature × Text)} {form : Signature → Text → Text → Prop}

theorem Reads.eq_none (h : Reads read form) {t : Text}
    (hnone : ∀ s w rest, form s rest w → t ≠ w ++ rest) : read t = none := by
  rw [Option.eq_none_iff_forall_ne_some]
  rintro ⟨s, rest⟩ hr
  obtain ⟨w, hw, ht⟩ := h.iff.1 hr
  exact hnone s w rest hw ht

theorem Reads.eq_none_of_not_word (h : Reads read form) {t : Text}
    (ht : Text.startsWithWord t = false) : read t = none := by
  refine h.eq_none fun s w rest hw heq => ?_
  obtain ⟨c, u, rfl, hc⟩ := h.word hw
  rw [heq, List.cons_append, Text.startsWithWord, hc] at ht
  exact absurd ht (by simp)

/-- Nothing is read where another character stands in front of the next parenthesis. -/
theorem Reads.eq_none_of_barred (h : Reads read form) (ho : Opens form) {u : Text} {bar : Char}
    (hu : '(' ∉ u) (hbar : ¬ IsLead [bar]) (hparen : bar ≠ '(') (v : Text) :
    read (u ++ bar :: v) = none := by
  refine h.eq_none fun s w rest hw heq => ?_
  obtain ⟨lead, tail, rfl, hlead⟩ := ho s rest w hw
  have hfree : '(' ∉ u ++ [bar] := by
    rw [List.mem_append, not_or, List.mem_singleton]
    exact ⟨hu, Ne.symm hparen⟩
  have heq' := congrArg (List.takeWhile (· != '(')) heq
  rw [List.append_assoc, List.cons_append, hlead.takeWhile_append, List.append_cons,
    Text.takeWhile_ne_append hfree] at heq'
  rw [← heq', isLead_append, isLead_append] at hlead
  exact hbar hlead.1.2

/-- No arrow is read where the next parenthesis has no equals sign in front of it. -/
theorem arrow?_eq_none_of_unbound {u : Text} (hu : '(' ∉ u) (hequals : '=' ∉ u) (v : Text) :
    arrow? (u ++ '(' :: v) = none := by
  refine reads_arrow.eq_none fun s w rest hw heq => ?_
  obtain ⟨lead, tail, rfl, hlead, hmem⟩ := hw.exists_lead
  have heq' := congrArg (List.takeWhile (· != '(')) heq
  rw [List.append_assoc, List.cons_append, hlead.takeWhile_append,
    Text.takeWhile_ne_append hu, List.takeWhile_cons_of_neg (by simp), List.append_nil] at heq'
  rw [← heq'] at hmem
  exact hequals hmem

end Signature

namespace Candidate

open Signature (IsLead Opens Reads)

variable {read : Text → Option (Signature × Text)} {form : Signature → Text → Text → Prop}

theorem atPlace_eq_none (shape : Shape) (before : Text) {t : Text} (h : read t = none) :
    atPlace shape read ⟨before, t⟩ = none := by
  unfold atPlace
  rw [h]
  simp

/-- A part that has no parenthesis in front of a barring character, and behind it only white space,
adds nothing to a scan. -/
theorem scanFrom_barred (shape : Shape) (h : Reads read form) (ho : Opens form) {u v : Text}
    {bar : Char} (hu : '(' ∉ u) (hbar : ¬ IsLead [bar]) (hparen : bar ≠ '(')
    (hv : Text.isBlank v = true) (before rest : Text) :
    Place.scanFrom (atPlace shape read) 0 before (u ++ bar :: v ++ rest) =
      Place.scanFrom (atPlace shape read) 0 ((u ++ bar :: v).reverse ++ before) rest := by
  refine Place.scanFrom_append_of_none fun a b hab hb => atPlace_eq_none shape _ ?_
  rcases List.append_eq_append_iff.1 hab with ⟨b', rfl, hb'⟩ | ⟨u', rfl, rfl⟩
  · cases b' with
    | nil =>
      rw [List.nil_append] at hb'
      rw [← hb']
      exact h.eq_none_of_barred ho (u := []) (by simp) hbar hparen (v ++ rest)
    | cons c b' =>
      -- Behind the barring character stands white space, and no declaration begins with that.
      obtain ⟨-, rfl⟩ := List.cons.inj hb'
      refine h.eq_none_of_not_word ?_
      cases b with
      | nil => exact absurd rfl hb
      | cons d b => exact isWord_of_isBlank (Text.isBlank_iff.1 hv d (by simp))
  · rw [List.append_assoc]
    exact h.eq_none_of_barred ho (fun hc => hu (List.mem_append_right a hc)) hbar hparen (v ++ rest)

/-- A part without an equals sign, up to its first parenthesis, adds nothing to a scan for arrows. -/
theorem scanFrom_unbound {u : Text} (hu : '(' ∉ u) (hequals : '=' ∉ u) (before rest : Text) :
    Place.scanFrom (atPlace .arrow Signature.arrow?) 0 before (u ++ ['('] ++ rest) =
      Place.scanFrom (atPlace .arrow Signature.arrow?) 0 ((u ++ ['(']).reverse ++ before) rest := by
  refine Place.scanFrom_append_of_none fun a b hab hb => atPlace_eq_none .arrow _ ?_
  rcases List.append_eq_append_iff.1 hab with ⟨b', rfl, hb'⟩ | ⟨u', rfl, rfl⟩
  · rcases List.singleton_eq_append_iff.1 hb' with ⟨-, rfl⟩ | ⟨-, rfl⟩
    · have hword : isWord '(' = false := by decide
      exact Signature.reads_arrow.eq_none_of_not_word hword
    · exact absurd rfl hb
  · rw [List.append_assoc]
    exact Signature.arrow?_eq_none_of_unbound (fun hc => hu (List.mem_append_right a hc))
      (fun hc => hequals (List.mem_append_right a hc)) rest

end Candidate

end BlazorBridge

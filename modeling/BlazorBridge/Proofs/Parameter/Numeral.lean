import BlazorBridge.Parameter.Default
import BlazorBridge.Proofs.Text.Runs

/-!
# Decimal numbers

A decimal number has an optional sign, digits with perhaps a point among them or at either end, and
perhaps an exponent. What counts as a digit is left open: default values are read with the digits of all
scripts, while JavaScript and C# have ten.

Main statement (`isNumber_iff`): a default value is taken for a number exactly if it is a decimal number
over the digits of all scripts. So nothing stands in one but digits and the marks of its other parts
(`not_mem_of_isNumber`).
-/

namespace BlazorBridge.Default

/-! ## The grammar -/

/-- An optional sign. -/
def IsSign (t : Text) : Prop := t = [] ∨ t = ['+'] ∨ t = ['-']

/-- Digits, at least one. -/
def IsDigits (digit : Char → Bool) (w : Text) : Prop := w ≠ [] ∧ ∀ c ∈ w, digit c = true

/-- The exponent of a number. -/
structure Exponent (digit : Char → Bool) where
  mark : Char
  sign : Text
  power : Text
  isMark : mark = 'e' ∨ mark = 'E'
  isSign : IsSign sign
  isPower : IsDigits digit power

/-- A decimal number. It has a digit in front of the point or behind it, and none at all are needed on
the other side. -/
structure Numeral (digit : Char → Bool) where
  sign : Text
  whole : Text
  fraction : Option Text
  exponent : Option (Exponent digit)
  isSign : IsSign sign
  isWhole : ∀ c ∈ whole, digit c = true
  isFraction : ∀ f ∈ fraction, ∀ c ∈ f, digit c = true
  hasDigits : whole ≠ [] ∨ ∃ f ∈ fraction, f ≠ []

/-- An exponent as it is written. -/
def Exponent.written {digit : Char → Bool} (e : Exponent digit) : Text :=
  e.mark :: (e.sign ++ e.power)

/-- The point of a number with the digits behind it. -/
def pointed : Option Text → Text
  | none => []
  | some fraction => '.' :: fraction

namespace Numeral

variable {digit : Char → Bool}

/-- What stands behind the digits of a number. -/
def ending (n : Numeral digit) : Text :=
  match n.exponent with
  | none => []
  | some e => e.written

/-- A number as it is written. -/
def written (n : Numeral digit) : Text := n.sign ++ (n.whole ++ pointed n.fraction ++ n.ending)

end Numeral

/-! ## Characters -/

section

variable {digit : Char → Bool} {c : Char}

theorem IsSign.mem_cases {t : Text} (h : IsSign t) (hc : c ∈ t) : c = '+' ∨ c = '-' := by
  rcases h with rfl | rfl | rfl
  · simp at hc
  · exact .inl (by simpa using hc)
  · exact .inr (by simpa using hc)

theorem Exponent.mem_written (e : Exponent digit) (hc : c ∈ e.written) :
    digit c = true ∨ c ∈ "+-eE".toList := by
  rcases List.mem_cons.1 hc with rfl | hc
  · rcases e.isMark with h | h <;> simp [h]
  · rcases List.mem_append.1 hc with hc | hc
    · rcases e.isSign.mem_cases hc with rfl | rfl <;> simp
    · exact .inl (e.isPower.2 c hc)

theorem Numeral.mem_ending (n : Numeral digit) (hc : c ∈ n.ending) :
    digit c = true ∨ c ∈ "+-eE".toList := by
  unfold ending at hc
  split at hc
  · simp at hc
  · exact Exponent.mem_written _ hc

theorem Numeral.head?_ending (n : Numeral digit) (hc : n.ending.head? = some c) :
    c = 'e' ∨ c = 'E' := by
  unfold ending at hc
  split at hc
  · simp at hc
  · rename_i e _
    obtain rfl : e.mark = c := by simpa [Exponent.written] using hc
    exact e.isMark

/-- A number holds digits, signs, points and the letter of the exponent. -/
theorem Numeral.mem_written (n : Numeral digit) (hc : c ∈ n.written) :
    digit c = true ∨ c ∈ "+-.eE".toList := by
  simp only [written, List.mem_append] at hc
  rcases hc with hc | (hc | hc) | hc
  · rcases n.isSign.mem_cases hc with rfl | rfl <;> simp
  · exact .inl (n.isWhole c hc)
  · cases hfraction : n.fraction with
    | none =>
      rw [hfraction] at hc
      simp [pointed] at hc
    | some f =>
      rw [hfraction] at hc
      rcases List.mem_cons.1 hc with rfl | hc
      · simp
      · exact .inl (n.isFraction f hfraction c hc)
  · rcases n.mem_ending hc with hc | hc
    · exact .inl hc
    · exact .inr ((by decide : "+-eE".toList ⊆ "+-.eE".toList) hc)

/-- A character that is no digit, and stands for none of the other parts of a number. -/
theorem Numeral.not_mem_written (n : Numeral digit) (hdigit : digit c = false)
    (hother : c ∉ "+-.eE".toList) : c ∉ n.written := by
  intro hc
  rcases n.mem_written hc with hc | hc
  · rw [hdigit] at hc
    exact absurd hc (by simp)
  · exact hother hc

end

/-! ## Reading numbers -/

theorem digits?_eq_none_iff {t : Text} : digits? t = none ↔ ∀ c ∈ t.head?, isDigit c = false := by
  cases t with
  | nil => simp [digits?]
  | cons c t => simp [digits?]

/-- Exactly the digits at the front are read. -/
theorem digits?_eq_some_iff {t rest : Text} :
    digits? t = some rest ↔ ∃ w, IsDigits isDigit w ∧ t = w ++ rest ∧ digits? rest = none := by
  constructor
  · intro h
    cases t with
    | nil => simp [digits?] at h
    | cons c t =>
      rw [digits?] at h
      split at h
      · rename_i hc
        obtain rfl := Option.some.inj h
        refine ⟨c :: t.takeWhile isDigit, ⟨by simp, ?_⟩, ?_, ?_⟩
        · intro d hd
          rcases List.mem_cons.1 hd with rfl | hd
          · exact hc
          · exact List.mem_takeWhile_imp hd
        · rw [List.cons_append, List.takeWhile_append_dropWhile]
        · rw [digits?_eq_none_iff]
          intro d hd
          have hnot := List.head?_dropWhile_not isDigit t
          rw [Option.mem_def.1 hd] at hnot
          simpa using hnot
      · simp at h
  · rintro ⟨w, ⟨hne, hw⟩, rfl, hrest⟩
    obtain ⟨c, w, rfl⟩ := List.exists_cons_of_ne_nil hne
    rw [List.cons_append, digits?, if_pos (hw c (by simp)), Option.some.injEq,
      List.dropWhile_append_of_pos fun d hd => hw d (by simp [hd])]
    cases rest with
    | nil => rfl
    | cons d rest => exact List.dropWhile_cons_of_neg (by simp [digits?_eq_none_iff.1 hrest d rfl])

/-- Digits of which there may be none, in front of what begins with none. -/
theorem dropWhile_isDigit_append {w rest : Text} (hw : ∀ c ∈ w, isDigit c = true)
    (hrest : digits? rest = none) : (w ++ rest).dropWhile isDigit = rest := by
  rw [List.dropWhile_append_of_pos hw]
  cases rest with
  | nil => rfl
  | cons c rest => exact List.dropWhile_cons_of_neg (by simp [digits?_eq_none_iff.1 hrest c rfl])

theorem ne_sign_of_isDigit {c : Char} (h : isDigit c = true) : c ≠ '+' ∧ c ≠ '-' := by
  constructor <;> (rintro rfl; exact absurd h (by decide))

theorem exists_sign (t : Text) : ∃ sign, IsSign sign ∧ t = sign ++ dropSign t := by
  cases t with
  | nil => exact ⟨[], .inl rfl, rfl⟩
  | cons c t =>
    rw [dropSign]
    split
    · rename_i hc
      simp only [Bool.or_eq_true, decide_eq_true_eq] at hc
      rcases hc with rfl | rfl
      · exact ⟨['+'], .inr (.inl rfl), rfl⟩
      · exact ⟨['-'], .inr (.inr rfl), rfl⟩
    · exact ⟨[], .inl rfl, rfl⟩

/-- A sign is dropped in front of what begins with none. -/
theorem dropSign_append {sign rest : Text} (h : IsSign sign)
    (hrest : ∀ c ∈ rest.head?, c ≠ '+' ∧ c ≠ '-') : dropSign (sign ++ rest) = rest := by
  rcases h with rfl | rfl | rfl
  · cases rest with
    | nil => rfl
    | cons c rest =>
      obtain ⟨hplus, hminus⟩ := hrest c rfl
      simp [dropSign, hplus, hminus]
  · rfl
  · rfl

/-- An exponent is read exactly if it is one. -/
theorem isExponent_iff {t : Text} : isExponent t = true ↔ ∃ e : Exponent isDigit, e.written = t := by
  cases t with
  | nil => simp [isExponent, Exponent.written]
  | cons c t =>
    simp only [isExponent, Bool.and_eq_true, Bool.or_eq_true, decide_eq_true_eq, beq_iff_eq]
    constructor
    · rintro ⟨hmark, hpower⟩
      obtain ⟨power, hdigits, ht, -⟩ := digits?_eq_some_iff.1 hpower
      obtain ⟨sign, hsign, heq⟩ := exists_sign t
      refine ⟨⟨c, sign, power, hmark, hsign, hdigits⟩, ?_⟩
      rw [Exponent.written, heq, ht, List.append_nil]
    · rintro ⟨e, he⟩
      rw [Exponent.written, List.cons.injEq] at he
      obtain ⟨rfl, rfl⟩ := he
      refine ⟨e.isMark, ?_⟩
      rw [dropSign_append e.isSign, digits?_eq_some_iff]
      · exact ⟨e.power, e.isPower, (List.append_nil _).symm, rfl⟩
      · intro c hc
        exact ne_sign_of_isDigit (e.isPower.2 c (List.mem_of_mem_head? hc))

/-- A number that begins with digits goes on behind the point, if one follows them. -/
theorem mantissa?_of_point {t rest : Text} (h : digits? t = some ('.' :: rest)) :
    mantissa? t = some (rest.dropWhile isDigit) := by
  simp [mantissa?, h]

theorem mantissa?_of_digits {t rest : Text} (h : digits? t = some rest)
    (hpoint : rest.head? ≠ some '.') : mantissa? t = some rest := by
  unfold mantissa?
  rw [h]
  split
  · rename_i behind heq
    rw [Option.some.inj heq] at hpoint
    exact absurd rfl hpoint
  · rename_i heq
    exact heq.symm
  · rename_i heq
    exact absurd heq (by simp)

theorem mantissa?_cons_point (t : Text) : mantissa? ('.' :: t) = digits? t := by
  have hbare : digits? ('.' :: t) = none := digits?_eq_none_iff.2 (by simp; decide)
  simp [mantissa?, hbare]

/-- What is read as the digits of a number is such digits. -/
theorem exists_of_mantissa? {t rest : Text} (h : mantissa? t = some rest) :
    ∃ whole fraction, (∀ c ∈ whole, isDigit c = true) ∧
      (∀ f ∈ fraction, ∀ c ∈ f, isDigit c = true) ∧ (whole ≠ [] ∨ ∃ f ∈ fraction, f ≠ []) ∧
      t = whole ++ pointed fraction ++ rest := by
  unfold mantissa? at h
  split at h
  · rename_i behind hdigits
    obtain ⟨whole, ⟨hne, hwhole⟩, rfl, -⟩ := digits?_eq_some_iff.1 hdigits
    obtain rfl := Option.some.inj h
    refine ⟨whole, some (behind.takeWhile isDigit), hwhole, ?_, .inl hne, ?_⟩
    · rintro _ ⟨⟩ c hc
      exact List.mem_takeWhile_imp hc
    · simp [pointed, List.takeWhile_append_dropWhile]
  · rename_i behind _ hdigits
    obtain ⟨whole, ⟨hne, hwhole⟩, rfl, -⟩ := digits?_eq_some_iff.1 hdigits
    obtain rfl := Option.some.inj h
    exact ⟨whole, none, hwhole, by simp, .inl hne, by simp [pointed]⟩
  · split at h
    · obtain ⟨fraction, ⟨hne, hfraction⟩, rfl, -⟩ := digits?_eq_some_iff.1 h
      exact ⟨[], some fraction, by simp, by simpa using hfraction, .inr ⟨fraction, rfl, hne⟩, rfl⟩
    · simp at h

/-- All the digits of a number are read, in front of what goes on neither with a digit nor with a
point. -/
theorem mantissa?_append {whole rest : Text} {fraction : Option Text}
    (hwhole : ∀ c ∈ whole, isDigit c = true) (hfraction : ∀ f ∈ fraction, ∀ c ∈ f, isDigit c = true)
    (hsome : whole ≠ [] ∨ ∃ f ∈ fraction, f ≠ []) (hdigit : digits? rest = none)
    (hpoint : rest.head? ≠ some '.') :
    mantissa? (whole ++ pointed fraction ++ rest) = some rest := by
  rcases eq_or_ne whole [] with rfl | hne
  · obtain ⟨f, rfl, hf⟩ := hsome.resolve_left (by simp)
    rw [pointed, List.nil_append, List.cons_append, mantissa?_cons_point]
    exact digits?_eq_some_iff.2 ⟨f, ⟨hf, hfraction f rfl⟩, rfl, hdigit⟩
  · cases fraction with
    | none =>
      rw [pointed, List.append_nil]
      exact mantissa?_of_digits
        (digits?_eq_some_iff.2 ⟨whole, ⟨hne, hwhole⟩, rfl, hdigit⟩) hpoint
    | some f =>
      have hstop : digits? ('.' :: (f ++ rest)) = none := digits?_eq_none_iff.2 (by simp; decide)
      rw [pointed, List.append_assoc, List.cons_append, mantissa?_of_point
        (digits?_eq_some_iff.2 ⟨whole, ⟨hne, hwhole⟩, rfl, hstop⟩),
        dropWhile_isDigit_append (hfraction f rfl) hdigit]

/-- The digits of a number end where its exponent begins. -/
theorem Numeral.ending_stops (n : Numeral isDigit) :
    digits? n.ending = none ∧ n.ending.head? ≠ some '.' := by
  constructor
  · rw [digits?_eq_none_iff]
    intro c hc
    rcases n.head?_ending hc with rfl | rfl <;> decide
  · intro h
    rcases n.head?_ending h with h | h <;> exact absurd h (by decide)

theorem Numeral.head?_unsigned (n : Numeral isDigit) :
    ∀ c ∈ (n.whole ++ pointed n.fraction ++ n.ending).head?, c ≠ '+' ∧ c ≠ '-' := by
  intro c hc
  cases hwhole : n.whole with
  | cons d whole =>
    rw [hwhole] at hc
    obtain rfl : d = c := by simpa using hc
    exact ne_sign_of_isDigit (n.isWhole d (by simp [hwhole]))
  | nil =>
    obtain ⟨f, hf, -⟩ := n.hasDigits.resolve_left (by simp [hwhole])
    rw [hwhole, Option.mem_def.1 hf] at hc
    obtain rfl : '.' = c := by simpa [pointed] using hc
    decide

/-- **The numbers that are read.** A default value is taken for a number exactly if it is a decimal
number over the digits of all scripts. -/
theorem isNumber_iff {t : Text} : isNumber t = true ↔ ∃ n : Numeral isDigit, n.written = t := by
  unfold isNumber
  constructor
  · intro h
    obtain ⟨sign, hsign, ht⟩ := exists_sign t
    cases hmantissa : mantissa? (dropSign t) with
    | none => simp [hmantissa] at h
    | some rest =>
      obtain ⟨whole, fraction, hwhole, hfraction, hsome, hdigits⟩ := exists_of_mantissa? hmantissa
      simp only [hmantissa, Bool.or_eq_true, List.isEmpty_iff] at h
      rcases h with rfl | h
      · refine ⟨⟨sign, whole, fraction, none, hsign, hwhole, hfraction, hsome⟩, ?_⟩
        rw [ht, hdigits]
        rfl
      · obtain ⟨e, rfl⟩ := isExponent_iff.1 h
        refine ⟨⟨sign, whole, fraction, some e, hsign, hwhole, hfraction, hsome⟩, ?_⟩
        rw [ht, hdigits]
        rfl
  · rintro ⟨n, rfl⟩
    obtain ⟨hdigit, hpoint⟩ := n.ending_stops
    rw [Numeral.written, dropSign_append n.isSign n.head?_unsigned,
      mantissa?_append n.isWhole n.isFraction n.hasDigits hdigit hpoint]
    unfold Numeral.ending
    cases n.exponent with
    | none => rfl
    | some e => simp [isExponent_iff.2 ⟨e, rfl⟩]

/-! ## What stands in no number -/

/-- A blank is no digit. -/
theorem isDigit_of_isBlank {c : Char} (h : isBlank c = true) : isDigit c = false :=
  not_contains_of_isBlank (by decide +kernel) h

theorem not_mem_of_isNumber {t : Text} (h : isNumber t = true) {c : Char} (hdigit : isDigit c = false)
    (hother : c ∉ "+-.eE".toList) : c ∉ t := by
  obtain ⟨n, rfl⟩ := isNumber_iff.1 h
  exact n.not_mem_written hdigit hother

/-- White space is trimmed from no number. -/
theorem trim_of_isNumber {t : Text} (h : isNumber t = true) : Text.trim t = t := by
  have hsolid : ∀ u : Text, (∀ c ∈ u, isBlank c = false) → Text.IsSolid u := by
    intro u hu
    cases u with
    | nil => rfl
    | cons c u => exact Text.isSolid_cons.2 (hu c (by simp))
  have hmarks : ∀ c ∈ "+-.eE".toList, isBlank c = false := by
    have hall : ("+-.eE".toList.all fun c => !isBlank c) = true := by decide
    simpa using List.all_eq_true.1 hall
  have hblank : ∀ c ∈ t, isBlank c = false := by
    intro c hc
    rw [Bool.eq_false_iff]
    intro hb
    refine not_mem_of_isNumber h (isDigit_of_isBlank hb) (fun hother => ?_) hc
    rw [hmarks c hother] at hb
    exact absurd hb (by simp)
  exact Text.trim_eq_self (hsolid t hblank)
    (hsolid t.reverse fun c hc => hblank c (List.mem_reverse.1 hc))

end BlazorBridge.Default

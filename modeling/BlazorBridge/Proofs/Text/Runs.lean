import BlazorBridge.Text.Blank
import BlazorBridge.Text.Word
import Mathlib.Data.List.TakeWhile

/-!
# Runs of characters

Readers take runs of blanks and of word characters, so what they read is settled by where a run
stops. No character is both a blank and a word character (`isWord_of_isBlank`). A run stops in front
of any text that does not begin with a character of its kind, and trimming takes away exactly the
blanks at the two ends (`trim_append_of_isBlank`, `trim_blank_append`).
-/

namespace BlazorBridge

/-! ## Blanks are no word characters -/

/-- Between two changes of a set all code points are members, and behind them the rest decides. -/
theorem CharSet.inside_cons_cons {a b : Nat} (h : a ≤ b) (changes : List Nat) (n : Nat) :
    inside false (a :: b :: changes) n = true ↔
      a ≤ n ∧ n < b ∨ b ≤ n ∧ inside false changes n = true := by
  have hi : inside false (a :: b :: changes) n =
      if n < a then false else if n < b then true else inside false changes n := rfl
  rw [hi]
  by_cases ha : n < a
  · rw [if_pos ha]
    simp only [Bool.false_eq_true, false_iff]
    omega
  · rw [if_neg ha]
    by_cases hb : n < b
    · rw [if_pos hb]
      simp only [true_iff]
      omega
    · rw [if_neg hb]
      constructor
      · intro h'
        exact Or.inr ⟨by omega, h'⟩
      · rintro (h' | ⟨-, h'⟩)
        · omega
        · exact h'

/-- The ranges of the blanks. -/
theorem isBlank_ranges {c : Char} (h : isBlank c = true) :
    0x9 ≤ c.toNat ∧ c.toNat < 0xe ∨ 0x1c ≤ c.toNat ∧ c.toNat < 0x21 ∨
      0x85 ≤ c.toNat ∧ c.toNat < 0x86 ∨ 0xa0 ≤ c.toNat ∧ c.toNat < 0xa1 ∨
      0x1680 ≤ c.toNat ∧ c.toNat < 0x1681 ∨ 0x2000 ≤ c.toNat ∧ c.toNat < 0x200b ∨
      0x2028 ≤ c.toNat ∧ c.toNat < 0x202a ∨ 0x202f ≤ c.toNat ∧ c.toNat < 0x2030 ∨
      0x205f ≤ c.toNat ∧ c.toNat < 0x2060 ∨ 0x3000 ≤ c.toNat ∧ c.toNat < 0x3001 := by
  unfold isBlank CharSet.contains blanks at h
  have hn (n : Nat) : CharSet.inside false [] n = false := rfl
  simp (disch := decide) only [CharSet.inside_cons_cons, hn, Bool.false_eq_true, and_false,
    or_false] at h
  omega

/-- The code points of the blanks. -/
def blankPoints : List Nat :=
  [0x9, 0xa, 0xb, 0xc, 0xd, 0x1c, 0x1d, 0x1e, 0x1f, 0x20, 0x85, 0xa0, 0x1680, 0x2000, 0x2001, 0x2002,
   0x2003, 0x2004, 0x2005, 0x2006, 0x2007, 0x2008, 0x2009, 0x200a, 0x2028, 0x2029, 0x202f, 0x205f,
   0x3000]

theorem mem_blankPoints {c : Char} (h : isBlank c = true) : c.toNat ∈ blankPoints := by
  have hr := isBlank_ranges h
  simp only [blankPoints, List.mem_cons, List.not_mem_nil, or_false]
  omega

/-- A set that holds none of the code points of blanks holds no blank. -/
theorem not_contains_of_isBlank {s : CharSet}
    (hs : ∀ n ∈ blankPoints, CharSet.inside false s.changes n = false) {c : Char}
    (h : isBlank c = true) : s.contains c = false :=
  hs c.toNat (mem_blankPoints h)

/-- A blank is no word character. -/
theorem isWord_of_isBlank {c : Char} (h : isBlank c = true) : isWord c = false :=
  not_contains_of_isBlank (by decide +kernel) h

theorem isBlank_of_isWord {c : Char} (h : isWord c = true) : isBlank c = false := by
  cases hb : isBlank c with
  | false => rfl
  | true => rw [isWord_of_isBlank hb] at h; exact absurd h (by simp)

namespace Text

theorem after?_append (head rest : Text) : after? head (head ++ rest) = some rest :=
  after?_eq_some_iff.2 rfl

/-- What stands up to the first `c` is looked for behind a part without it. -/
theorem takeWhile_ne_append {c : Char} {u : Text} (h : c ∉ u) (v : Text) :
    (u ++ v).takeWhile (· != c) = u ++ v.takeWhile (· != c) := by
  refine List.takeWhile_append_of_pos fun d hd => ?_
  rw [bne_iff_ne]
  rintro rfl
  exact h hd

theorem takeWhile_ne_of_not_mem {c : Char} {t : Text} (h : c ∉ t) : t.takeWhile (· != c) = t := by
  simpa using takeWhile_ne_append h []

/-- What stands up to the first `c` is what is cut off there. -/
theorem takeWhile_ne_of_cut {c : Char} {t a b : Text} (h : cut c t = some (a, b)) :
    t.takeWhile (· != c) = a := by
  obtain ⟨rfl, hc⟩ := cut_eq_some_iff.1 h
  simp [takeWhile_ne_append hc]

/-! ## Where runs stop -/

/-- White space that is not empty. -/
def IsGap (w : Text) : Prop := w ≠ [] ∧ isBlank w = true

/-- A run of word characters that is not empty. -/
def IsName (w : Text) : Prop := w ≠ [] ∧ ∀ c ∈ w, isWord c = true

instance (w : Text) : Decidable (IsGap w) :=
  inferInstanceAs (Decidable (w ≠ [] ∧ isBlank w = true))

instance (w : Text) : Decidable (IsName w) :=
  decidable_of_iff (w ≠ [] ∧ w.all isWord = true) (by simp [IsName])

/-- A text that does not begin with white space. -/
def IsSolid (t : Text) : Prop := trimFront t = t

theorem isBlank_iff {w : Text} : isBlank w = true ↔ ∀ c ∈ w, BlazorBridge.isBlank c = true := by
  simp [isBlank]

theorem isBlank_cons {c : Char} {w : Text} :
    isBlank (c :: w) = true ↔ BlazorBridge.isBlank c = true ∧ isBlank w = true := by
  simp [isBlank]

theorem isSolid_cons {c : Char} {t : Text} : IsSolid (c :: t) ↔ BlazorBridge.isBlank c = false := by
  unfold IsSolid trimFront
  rw [List.dropWhile_cons]
  cases hc : BlazorBridge.isBlank c with
  | false => simp
  | true =>
    simp only [if_true, Bool.true_eq_false, iff_false]
    intro h
    have := congrArg List.length h
    have := (List.dropWhile_suffix (l := t) BlazorBridge.isBlank).length_le
    rw [List.length_cons] at *
    omega

theorem trimFront_append_of_isBlank {w : Text} (h : isBlank w = true) (t : Text) :
    trimFront (w ++ t) = trimFront t :=
  List.dropWhile_append_of_pos (isBlank_iff.1 h)

/-- White space in front of a solid text is all that is trimmed. -/
theorem trimFront_blank_append {w t : Text} (h : isBlank w = true) (ht : IsSolid t) :
    trimFront (w ++ t) = t := by
  rw [trimFront_append_of_isBlank h, ht]

theorem isSolid_trimFront (t : Text) : IsSolid (trimFront t) := by
  induction t with
  | nil => rfl
  | cons c t ih =>
    cases hc : BlazorBridge.isBlank c with
    | false => rwa [trimFront, List.dropWhile_cons, hc, if_neg (by simp), isSolid_cons]
    | true => rwa [trimFront, List.dropWhile_cons, hc, if_pos rfl]

/-- What is trimmed in front is white space. -/
theorem exists_blank_append_trimFront (t : Text) :
    ∃ w, isBlank w = true ∧ t = w ++ trimFront t :=
  ⟨t.takeWhile BlazorBridge.isBlank, List.all_takeWhile,
    (List.takeWhile_append_dropWhile (p := BlazorBridge.isBlank)).symm⟩

theorem IsName.isSolid_append {n : Text} (h : IsName n) (t : Text) : IsSolid (n ++ t) := by
  obtain ⟨hne, hw⟩ := h
  cases n with
  | nil => exact absurd rfl hne
  | cons c n => exact isSolid_cons.2 (isBlank_of_isWord (hw c (by simp)))

theorem IsName.startsWithWord_append {n : Text} (h : IsName n) (t : Text) :
    startsWithWord (n ++ t) = true := by
  obtain ⟨hne, hw⟩ := h
  cases n with
  | nil => exact absurd rfl hne
  | cons c n => exact hw c (by simp)

theorem IsName.reverse {n : Text} (h : IsName n) : IsName n.reverse :=
  ⟨by simpa using h.1, fun c hc => h.2 c (List.mem_reverse.1 hc)⟩

theorem IsName.not_mem {n : Text} (h : IsName n) {c : Char} (hc : isWord c = false) : c ∉ n := by
  intro hn
  rw [h.2 c hn] at hc
  exact absurd hc (by simp)

theorem IsGap.not_mem {w : Text} (h : IsGap w) {c : Char} (hc : BlazorBridge.isBlank c = false) :
    c ∉ w := by
  intro hw
  rw [isBlank_iff.1 h.2 c hw] at hc
  exact absurd hc (by simp)

/-- White space in front of a text that begins with no word character begins with none either. -/
theorem startsWithWord_blank_append {w t : Text} (h : isBlank w = true)
    (ht : startsWithWord t = false) : startsWithWord (w ++ t) = false := by
  cases w with
  | nil => exact ht
  | cons c w => exact isWord_of_isBlank (isBlank_iff.1 h c (by simp))

/-- A name ends in front of any text that begins with no word character. -/
theorem IsName.takeWhile_append {n t : Text} (h : IsName n) (ht : startsWithWord t = false) :
    (n ++ t).takeWhile isWord = n := by
  rw [List.takeWhile_append_of_pos h.2]
  cases t with
  | nil => simp
  | cons c t =>
    rw [List.takeWhile_cons_of_neg (by simpa [startsWithWord] using ht), List.append_nil]

theorem IsName.dropWhile_append {n t : Text} (h : IsName n) (ht : startsWithWord t = false) :
    (n ++ t).dropWhile isWord = t := by
  rw [List.dropWhile_append_of_pos h.2]
  cases t with
  | nil => simp
  | cons c t => rw [List.dropWhile_cons_of_neg (by simpa [startsWithWord] using ht)]

theorem startsWithWord_dropWhile (t : Text) : startsWithWord (t.dropWhile isWord) = false := by
  induction t with
  | nil => rfl
  | cons c t ih =>
    cases hc : isWord c with
    | false => rwa [List.dropWhile_cons_of_neg (by simp [hc])]
    | true => rwa [List.dropWhile_cons_of_pos hc]

/-! ## Trimming both ends -/

theorem trimBack_append_of_isBlank (t : Text) {w : Text} (h : isBlank w = true) :
    trimBack (t ++ w) = trimBack t := by
  unfold trimBack
  rw [List.reverse_append, List.dropWhile_append_of_pos]
  intro c hc
  exact isBlank_iff.1 h c (List.mem_reverse.1 hc)

/-- At the end nothing is trimmed that stands in front of a character that is no white space. -/
theorem trimBack_append_cons {c : Char} (hc : BlazorBridge.isBlank c = false) (t rest : Text) :
    trimBack (t ++ c :: rest) = t ++ c :: trimBack rest := by
  unfold trimBack
  rw [List.reverse_append, List.reverse_cons, List.append_assoc, List.dropWhile_append]
  split
  · rename_i h
    rw [List.isEmpty_iff.1 h, List.singleton_append, List.dropWhile_cons_of_neg (by simp [hc])]
    simp
  · simp

theorem exists_trimBack_append (t : Text) : ∃ w, isBlank w = true ∧ t = trimBack t ++ w := by
  obtain ⟨w, hw, hr⟩ := exists_blank_append_trimFront t.reverse
  refine ⟨w.reverse, by rwa [isBlank_reverse], ?_⟩
  rw [trimBack, ← List.reverse_append]
  exact List.reverse_eq_iff.1 hr

theorem trim_blank_append {w : Text} (h : isBlank w = true) (t : Text) :
    trim (w ++ t) = trim t := by
  rw [trim, trimFront_append_of_isBlank h, trim]

/-- White space at the end of a text is trimmed, whatever stands before it. -/
theorem trim_append_of_isBlank (t : Text) {w : Text} (h : isBlank w = true) :
    trim (t ++ w) = trim t := by
  by_cases ht : isBlank t = true
  · rw [trim_eq_nil_iff.2 ht, trim_eq_nil_iff.2 (by rw [isBlank_append, ht, h]; rfl)]
  · have hne : trimFront t ≠ [] := fun h' => ht (dropWhile_isBlank_eq_nil_iff.1 h')
    have hf : trimFront (t ++ w) = trimFront t ++ w := by
      unfold trimFront at hne ⊢
      rw [List.dropWhile_append]
      simp [hne]
    rw [trim, hf, trimBack_append_of_isBlank _ h, trim]

theorem trim_trimBack (t : Text) : trim (trimBack t) = trim t := by
  obtain ⟨w, hw, ht⟩ := exists_trimBack_append t
  have htrim := trim_append_of_isBlank (trimBack t) hw
  rw [← ht] at htrim
  exact htrim.symm

/-- A text that neither begins nor ends with white space is left as it is. -/
theorem trim_eq_self {t : Text} (hf : IsSolid t) (hb : IsSolid t.reverse) : trim t = t := by
  have hb' : t.reverse.dropWhile BlazorBridge.isBlank = t.reverse := hb
  have hf' : trimFront t = t := hf
  rw [trim, hf', trimBack, hb', List.reverse_reverse]

/-- White space inside a text is not trimmed. -/
theorem trim_framed {a b : Char} (ha : BlazorBridge.isBlank a = false)
    (hb : BlazorBridge.isBlank b = false) (t : Text) : trim (a :: (t ++ [b])) = a :: (t ++ [b]) := by
  refine trim_eq_self (isSolid_cons.2 ha) ?_
  rw [← List.cons_append, List.reverse_concat]
  exact isSolid_cons.2 hb

theorem IsName.trim_eq {n : Text} (h : IsName n) : trim n = n := by
  refine trim_eq_self ?_ ?_
  · simpa using h.isSolid_append []
  · simpa using h.reverse.isSolid_append []

theorem isSolid_trim (t : Text) : IsSolid (trim t) := by
  have hs := isSolid_trimFront t
  unfold trim trimBack
  generalize trimFront t = u at hs
  obtain ⟨v, hv⟩ := List.dropWhile_suffix (l := u.reverse) BlazorBridge.isBlank
  have hu : u = (u.reverse.dropWhile BlazorBridge.isBlank).reverse ++ v.reverse := by
    rw [← List.reverse_append, hv, List.reverse_reverse]
  generalize (u.reverse.dropWhile BlazorBridge.isBlank).reverse = x at hu
  cases x with
  | nil => rfl
  | cons c x =>
    rw [hu, List.cons_append] at hs
    exact isSolid_cons.2 (isSolid_cons.1 hs)

theorem isSolid_reverse_trim (t : Text) : IsSolid (trim t).reverse := by
  rw [trim, trimBack, List.reverse_reverse]
  exact isSolid_trimFront _

/-- A trimmed text is not trimmed any further. -/
theorem trim_trim (t : Text) : trim (trim t) = trim t :=
  trim_eq_self (isSolid_trim t) (isSolid_reverse_trim t)

/-- What is trimmed is white space. -/
theorem exists_trim_eq (t : Text) :
    ∃ u v, isBlank u = true ∧ isBlank v = true ∧ t = u ++ trim t ++ v := by
  obtain ⟨u, hu, ht⟩ := exists_blank_append_trimFront t
  obtain ⟨v, hv, hr⟩ := exists_trimBack_append (trimFront t)
  refine ⟨u, v, hu, hv, ?_⟩
  rw [List.append_assoc, trim, ← hr]
  exact ht

/-- What is no white space is not trimmed. -/
theorem mem_trim {c : Char} {t : Text} (hc : BlazorBridge.isBlank c = false) (h : c ∈ t) : c ∈ trim t := by
  obtain ⟨u, v, hu, hv, ht⟩ := exists_trim_eq t
  have hblank : ∀ w, isBlank w = true → c ∉ w := by
    intro w hw hmem
    rw [isBlank_iff.1 hw c hmem] at hc
    exact absurd hc (by simp)
  rw [ht, List.mem_append, List.mem_append] at h
  rcases h with (h | h) | h
  · exact absurd h (hblank u hu)
  · exact h
  · exact absurd h (hblank v hv)

end Text

end BlazorBridge

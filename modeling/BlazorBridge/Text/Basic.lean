/-!
# Text

A text is a list of characters, so offsets, lengths and windows count code points. This module
holds the cuts that the rest of the library is built from: splitting at separators, cutting at
the first occurrence of a character, and looking for the last occurrence of a mark.
-/

namespace BlazorBridge

/-- A text, one entry per code point. -/
abbrev Text := List Char

namespace Text

/-! ## Splitting and joining -/

/-- Puts one character before the first piece. -/
def glue (c : Char) : List Text → List Text
  | [] => [[c]]
  | piece :: pieces => (c :: piece) :: pieces

/-- The pieces between the characters that `sep` selects. There is always one piece more than
there are separators. -/
def split (sep : Char → Bool) : Text → List Text
  | [] => [[]]
  | c :: rest => if sep c then [] :: split sep rest else glue c (split sep rest)

theorem split_ne_nil (sep : Char → Bool) (t : Text) : split sep t ≠ [] := by
  cases t with
  | nil => simp [split]
  | cons c rest =>
    unfold split
    split
    · simp
    · cases split sep rest <;> simp [glue]

theorem split_cons_sep {sep : Char → Bool} {c : Char} (h : sep c = true) (t : Text) :
    split sep (c :: t) = [] :: split sep t := by
  rw [split, if_pos h]

theorem split_cons_other {sep : Char → Bool} {c : Char} (h : sep c = false) (t : Text) :
    split sep (c :: t) = glue c (split sep t) := by
  rw [split, if_neg (by simp [h])]

theorem glue_append {c : Char} {as : List Text} (h : as ≠ []) (bs : List Text) :
    glue c (as ++ bs) = glue c as ++ bs := by
  cases as with
  | nil => exact absurd rfl h
  | cons a as => rfl

/-- A separator parts the pieces before it from those behind it. -/
theorem split_append_sep {sep : Char → Bool} {c : Char} (h : sep c = true) (a b : Text) :
    split sep (a ++ c :: b) = split sep a ++ split sep b := by
  induction a with
  | nil => rw [List.nil_append, split_cons_sep h]; rfl
  | cons d a ih =>
    rw [List.cons_append]
    cases hd : sep d with
    | true => rw [split_cons_sep hd, split_cons_sep hd, ih]; rfl
    | false =>
      rw [split_cons_other hd, split_cons_other hd, ih, glue_append (split_ne_nil sep a)]

/-- No piece holds a separator. -/
theorem not_sep_of_mem_split {sep : Char → Bool} {t piece : Text} (h : piece ∈ split sep t)
    {c : Char} (hc : c ∈ piece) : sep c = false := by
  induction t generalizing piece with
  | nil =>
    simp only [split, List.mem_singleton] at h
    subst h
    simp at hc
  | cons d t ih =>
    cases hd : sep d with
    | true =>
      rw [split_cons_sep hd, List.mem_cons] at h
      rcases h with rfl | h
      · simp at hc
      · exact ih h hc
    | false =>
      rw [split_cons_other hd] at h
      cases hs : split sep t with
      | nil => exact absurd hs (split_ne_nil sep t)
      | cons p ps =>
        rw [hs, glue, List.mem_cons] at h
        rcases h with rfl | h
        · rcases List.mem_cons.1 hc with rfl | hc
          · exact hd
          · exact ih (by simp [hs]) hc
        · exact ih (by simp [hs, h]) hc

/-- A text without separators is one piece. -/
theorem split_eq_singleton {sep : Char → Bool} {t : Text} (h : ∀ c ∈ t, sep c = false) :
    split sep t = [t] := by
  induction t with
  | nil => rfl
  | cons c t ih =>
    rw [split_cons_other (h c (by simp)), ih fun d hd => h d (by simp [hd])]
    rfl

/-- The lines of a text, without their line feeds. -/
def lines (t : Text) : List Text := split (· == '\n') t

/-- The pieces in order, with `sep` between neighbours. -/
def join (sep : Text) (pieces : List Text) : Text := List.intercalate sep pieces

/-- Joining the pieces with the separator gives the text back. -/
theorem join_split (c : Char) (t : Text) : join [c] (split (· == c) t) = t := by
  induction t with
  | nil => rfl
  | cons d t ih =>
    cases hs : split (· == c) t with
    | nil => exact absurd hs (split_ne_nil _ t)
    | cons p ps =>
      rw [hs] at ih
      by_cases hd : d = c
      · rw [split_cons_sep (by simp [hd]), hs, join, List.intercalate_cons_cons, ← join, ih, hd]
        rfl
      · rw [split_cons_other (by simp [hd]), hs, glue]
        cases ps with
        | nil => simpa [join] using ih
        | cons q qs =>
          rw [join, List.intercalate_cons_cons] at ih ⊢
          rw [List.cons_append, List.cons_append, ih]

/-- What stands before and after the first `c`, when there is one. -/
def cut (c : Char) (t : Text) : Option (Text × Text) :=
  match t.dropWhile (· != c) with
  | [] => none
  | _ :: after => some (t.takeWhile (· != c), after)

theorem cut_cons_self (c : Char) (t : Text) : cut c (c :: t) = some ([], t) := by simp [cut]

theorem cut_cons_of_ne {c d : Char} (h : d ≠ c) (t : Text) :
    cut c (d :: t) = (cut c t).map fun (a, b) => (d :: a, b) := by
  simp only [cut, List.dropWhile_cons, List.takeWhile_cons, bne_iff_ne.2 h, if_true]
  cases t.dropWhile (· != c) <;> rfl

/-- Nothing is cut where the character does not occur. -/
theorem cut_eq_none_iff {c : Char} {t : Text} : cut c t = none ↔ c ∉ t := by
  induction t with
  | nil => simp [cut]
  | cons d t ih =>
    by_cases hd : d = c
    · simp [hd, cut_cons_self]
    · simp [cut_cons_of_ne hd, ih, Ne.symm hd]

/-- A cut is at the first occurrence. -/
theorem cut_eq_some_iff {c : Char} {t a b : Text} :
    cut c t = some (a, b) ↔ t = a ++ c :: b ∧ c ∉ a := by
  induction t generalizing a with
  | nil => simp [cut]
  | cons d t ih =>
    by_cases hd : d = c
    · subst hd
      rw [cut_cons_self]
      cases a with
      | nil => simp [eq_comm]
      | cons e a =>
        simp only [Option.some.injEq, Prod.mk.injEq, List.cons_append, List.cons.injEq,
          List.mem_cons, not_or]
        constructor
        · rintro ⟨h, -⟩
          exact absurd h (by simp)
        · rintro ⟨⟨h, -⟩, hne, -⟩
          exact absurd h hne
    · rw [cut_cons_of_ne hd]
      cases a with
      | nil => simp [hd]
      | cons e a =>
        simp only [Option.map_eq_some_iff, Prod.mk.injEq, List.cons.injEq, Prod.exists,
          List.cons_append, List.mem_cons, not_or]
        constructor
        · rintro ⟨a', b', h, ⟨rfl, rfl⟩, rfl⟩
          obtain ⟨h₁, h₂⟩ := ih.1 h
          exact ⟨⟨rfl, h₁⟩, Ne.symm hd, h₂⟩
        · rintro ⟨⟨rfl, h₁⟩, -, h₂⟩
          exact ⟨a, b, ih.2 ⟨h₁, h₂⟩, ⟨rfl, rfl⟩, rfl⟩

/-! ## Heads and tails -/

/-- What follows `head` at the front of a text, when `head` stands there. -/
def after? : (head : Text) → Text → Option Text
  | [], t => some t
  | _ :: _, [] => none
  | h :: hs, c :: t => if h = c then after? hs t else none

/-- The head is found exactly when the text is the head and the rest. -/
theorem after?_eq_some_iff {head t rest : Text} : after? head t = some rest ↔ t = head ++ rest := by
  fun_induction after? head t with
  | case1 t => simp
  | case2 h hs => simp
  | case3 hs c t ih => simp [ih]
  | case4 h hs c t hne => simp [Ne.symm hne]

/-- Whether a text begins with `head`. -/
def startsWith (head t : Text) : Bool := head.isPrefixOf t

/-- Whether a text ends with `tail`. -/
def endsWith (tail t : Text) : Bool := tail.isSuffixOf t

/-- What is left of a text once its last `n` characters are gone. -/
def dropEnd (n : Nat) (t : Text) : Text := t.take (t.length - n)

/-! ## Marks inside a text -/

/-- The part of a text that begins at the last occurrence of `mark`. -/
def fromLast (mark : Text) : Text → Option Text
  | [] => if mark.isEmpty then some [] else none
  | c :: rest =>
    match fromLast mark rest with
    | some tail => some tail
    | none => if startsWith mark (c :: rest) then some (c :: rest) else none

/-- The part from the last mark on is a part that ends the text and begins with the mark. -/
theorem fromLast_eq_some {mark t tail : Text} (h : fromLast mark t = some tail) :
    tail <:+ t ∧ mark <+: tail := by
  induction t generalizing tail with
  | nil =>
    simp only [fromLast] at h
    split at h
    · rename_i hm
      simp only [Option.some.injEq] at h
      subst h
      rw [List.isEmpty_iff.1 hm]
      exact ⟨List.suffix_rfl, List.prefix_rfl⟩
    · simp at h
  | cons c t ih =>
    unfold fromLast at h
    split at h
    · rename_i hs
      simp only [Option.some.injEq] at h
      subst h
      obtain ⟨h₁, h₂⟩ := ih hs
      exact ⟨h₁.trans (List.suffix_cons c t), h₂⟩
    · split at h
      · rename_i hp
        simp only [Option.some.injEq] at h
        subst h
        exact ⟨List.suffix_rfl, List.isPrefixOf_iff_prefix.1 hp⟩
      · simp at h

/-- Whether `mark` occurs in a text. -/
def has (mark t : Text) : Bool := (fromLast mark t).isSome

/-! ## Slices -/

/-- The text before `offset`. A negative offset counts from the end and stops at the start; one
past the end gives the whole text. -/
def upTo (offset : Int) (t : Text) : Text :=
  if 0 ≤ offset then t.take offset.toNat else t.take (t.length - (-offset).toNat)

theorem upTo_natCast (n : Nat) (t : Text) : upTo n t = t.take n := by
  rw [upTo, if_pos (Int.natCast_nonneg n), Int.toNat_natCast]

/-- Behind a first part, an offset counts from the end of that part. -/
theorem upTo_append (a t : Text) (n : Nat) : upTo (a.length + n) (a ++ t) = a ++ t.take n := by
  rw [← Int.natCast_add, upTo_natCast, List.take_length_add_append]

/-- A natural number in decimal. -/
def ofNat (n : Nat) : Text := Nat.toDigits 10 n

/-- The order of texts by code point, character by character. -/
def le (a b : Text) : Bool := decide (¬ b < a)

end Text

end BlazorBridge

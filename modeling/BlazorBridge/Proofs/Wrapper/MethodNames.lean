import BlazorBridge.Proofs.Naming.Separators
import BlazorBridge.Wrapper

/-!
# Method names

The method for a function has the function's name in Pascal case. The underscores of a name are left out,
so a name in letters, digits and underscores of ASCII leaves letters and digits alone
(`isAlphanum_of_mem_pascalCase`), and they begin with the capital of its first character that is no
underscore (`head?_pascalCase`). For a digit that is the digit itself.

Main statement (`identifier_methodName_iff`): if the name of a function is an identifier, the name of its
method is one exactly if no digit stands directly behind the underscores at the front. Otherwise the name
of the method begins with that digit (`digit_begins_method`).
-/

namespace BlazorBridge

variable {c : Char} {t : Text}

/-! ## The letters of ASCII -/

/-- A property of all characters of ASCII, checked one by one. -/
theorem forall_ascii {P : Char → Prop} (h : ∀ n < 128, P (Char.ofNat n)) (hc : c.toNat < 128) :
    P c := by
  have hchar := h c.toNat hc
  rwa [Char.ofNat_toNat] at hchar

theorem lt_of_isAlphanum (h : c.isAlphanum = true) : c.toNat < 128 := by
  unfold Char.isAlphanum Char.isAlpha Char.isUpper Char.isLower Char.isDigit at h
  simp only [Bool.or_eq_true, Bool.and_eq_true, decide_eq_true_eq, UInt32.le_iff_toNat_le] at h
  have hpoint : c.toNat = c.val.toNat := rfl
  have hbounds : 'Z'.val.toNat = 90 ∧ 'z'.val.toNat = 122 ∧ '9'.val.toNat = 57 := by decide
  omega

theorem capital_ascii (h : c.toNat < 128) : capital c = [c.toUpper] :=
  forall_ascii (P := fun c => capital c = [c.toUpper]) (by decide +kernel) h

theorem small_ascii (h : c.toNat < 128) : small c = [c.toLower] :=
  forall_ascii (P := fun c => small c = [c.toLower]) (by decide +kernel) h

theorem Text.lowerAfter_ascii (h : ∀ c ∈ t, c.toNat < 128) (cased : Bool) :
    lowerAfter cased t = t.map Char.toLower := by
  induction t generalizing cased with
  | nil => rfl
  | cons c t ih =>
    have hc := h c (by simp)
    have hsigma : c ≠ 'Σ' := by
      rintro rfl
      exact absurd hc (by decide)
    rw [lowerAfter]
    simp only [if_neg hsigma, small_ascii hc]
    rw [ih fun d hd => h d (by simp [hd])]
    rfl

/-- Letters and digits keep what they are in either case. -/
theorem isAlphanum_cases (h : c.isAlphanum = true) :
    c.toUpper.isAlphanum = true ∧ c.toLower.isAlphanum = true ∧ c.toUpper.isDigit = c.isDigit :=
  forall_ascii (P := fun c => c.isAlphanum = true →
    c.toUpper.isAlphanum = true ∧ c.toLower.isAlphanum = true ∧ c.toUpper.isDigit = c.isDigit)
    (by decide +kernel) (lt_of_isAlphanum h) h

namespace Naming

theorem not_isSeparator_of_isAlphanum (h : c.isAlphanum = true) : isSeparator c = false :=
  forall_ascii (P := fun c => c.isAlphanum = true → isSeparator c = false) (by decide +kernel)
    (lt_of_isAlphanum h) h

theorem capitalize_ascii (h : ∀ d ∈ c :: t, d.isAlphanum = true) :
    capitalize (c :: t) = c.toUpper :: t.map Char.toLower := by
  rw [capitalize, capital_ascii (lt_of_isAlphanum (h c (by simp))), Text.lower,
    Text.lowerAfter_ascii fun d hd => lt_of_isAlphanum (h d (by simp [hd]))]
  rfl

/-- The first character that is no separator begins the first word. -/
theorem words_cons_of_not_separator (hc : isSeparator c = false) (t : Text) :
    ∃ w ws, words (c :: t) = (c :: w) :: ws := by
  obtain ⟨w, pieces, hsplit⟩ := List.exists_cons_of_ne_nil (Text.split_ne_nil isSeparator t)
  refine ⟨w, pieces.filter (!·.isEmpty), ?_⟩
  rw [words, Text.split_cons_other hc, hsplit, Text.glue]
  simp

/-- A word holds nothing that the name does not hold, and no underscore. -/
theorem isAlphanum_of_mem_word (h : ∀ c ∈ t, c.isAlphanum = true ∨ c = '_') {w : Text}
    (hw : w ∈ words t) : ∀ c ∈ w, c.isAlphanum = true := by
  intro c hc
  refine (h c (Text.subset_of_mem_split (List.mem_filter.1 hw).1 hc)).resolve_right ?_
  rintro rfl
  have hsep : isSeparator '_' = false := (ne_nil_and_not_separator hw).2 '_' hc
  exact absurd hsep (by decide)

/-- What is left of a name in letters, digits and underscores is letters and digits. -/
theorem isAlphanum_of_mem_pascalCase (h : ∀ c ∈ t, c.isAlphanum = true ∨ c = '_') :
    ∀ c ∈ pascalCase t, c.isAlphanum = true := by
  intro c hc
  rw [pascalCase, List.mem_flatMap] at hc
  obtain ⟨w, hw, hc⟩ := hc
  have hword := isAlphanum_of_mem_word h hw
  obtain ⟨first, rest, rfl⟩ := List.exists_cons_of_ne_nil (ne_nil_and_not_separator hw).1
  rw [capitalize_ascii hword] at hc
  rcases List.mem_cons.1 hc with rfl | hc
  · exact (isAlphanum_cases (hword first (by simp))).1
  · obtain ⟨d, hd, rfl⟩ := List.mem_map.1 hc
    exact (isAlphanum_cases (hword d (by simp [hd]))).2.1

/-- Pascal case begins with the capital of the first character that is no underscore. -/
theorem head?_pascalCase (h : ∀ c ∈ t, c.isAlphanum = true ∨ c = '_') :
    (pascalCase t).head? = (t.dropWhile (· == '_')).head?.map Char.toUpper := by
  induction t with
  | nil => rfl
  | cons c t ih =>
    rw [List.dropWhile_cons]
    rcases h c (by simp) with hc | rfl
    · have hmark : ¬ (c == '_') = true := by
        rw [beq_iff_eq]
        rintro rfl
        exact absurd hc (by decide)
      obtain ⟨w, ws, hwords⟩ := words_cons_of_not_separator (not_isSeparator_of_isAlphanum hc) t
      rw [if_neg hmark, pascalCase, hwords, List.flatMap_cons, capitalize,
        capital_ascii (lt_of_isAlphanum hc)]
      rfl
    · rw [pascalCase, words_cons_separator (by decide), ← pascalCase,
        ih fun d hd => h d (by simp [hd])]
      rfl

end Naming

namespace Wrapper

/-! ## Identifiers -/

/-- An identifier in ASCII: a letter or an underscore, and behind it letters, digits and underscores. -/
def IsAsciiIdentifier : Text → Prop
  | [] => False
  | c :: rest => (c.isAlpha = true ∨ c = '_') ∧ ∀ d ∈ rest, d.isAlphanum = true ∨ d = '_'

instance : DecidablePred IsAsciiIdentifier
  | [] => isFalse id
  | c :: rest => decidable_of_iff
      ((c.isAlpha || c == '_') = true ∧ rest.all (fun d => d.isAlphanum || d == '_') = true)
      (by simp [IsAsciiIdentifier])

/-- Whether a digit stands directly behind the underscores at the front of a name. -/
def isDigitLed (name : Text) : Bool := (name.dropWhile (· == '_')).head?.any Char.isDigit

theorem IsAsciiIdentifier.isAlphanum_or (h : IsAsciiIdentifier t) :
    ∀ c ∈ t, c.isAlphanum = true ∨ c = '_' := by
  cases t with
  | nil => exact h.elim
  | cons first rest =>
    intro c hc
    rcases List.mem_cons.1 hc with rfl | hc
    · exact h.1.imp_left fun halpha => by simp [Char.isAlphanum, halpha]
    · exact h.2 c hc

/-- Letters and digits are an identifier exactly if the first of them is no digit. -/
theorem isAsciiIdentifier_iff (h : ∀ c ∈ t, c.isAlphanum = true) (hhead : t.head? = some c) :
    IsAsciiIdentifier t ↔ c.isDigit = false := by
  obtain ⟨rest, rfl⟩ := List.head?_eq_some_iff.1 hhead
  have hc := h c (by simp)
  have hfirst : (c.isAlpha = true ∨ c = '_') ↔ c.isDigit = false :=
    forall_ascii (P := fun c => c.isAlphanum = true →
      ((c.isAlpha = true ∨ c = '_') ↔ c.isDigit = false)) (by decide +kernel) (lt_of_isAlphanum hc) hc
  have hrest : ∀ d ∈ rest, d.isAlphanum = true ∨ d = '_' := fun d hd => .inl (h d (by simp [hd]))
  rw [← hfirst]
  exact ⟨fun hid => hid.1, fun hid => ⟨hid, hrest⟩⟩

/-- The name of a method begins with the capital of the first character of the function's name that is no
underscore; a name of underscores alone leaves only what is put behind. -/
theorem head?_methodName {f : JsFunction} (h : ∀ c ∈ f.name, c.isAlphanum = true ∨ c = '_') :
    (methodName f).head? =
      some (((f.name.dropWhile (· == '_')).head?.map Char.toUpper).getD 'A') := by
  rw [methodName, List.head?_append, Naming.head?_pascalCase h]
  cases (f.name.dropWhile (· == '_')).head? <;> rfl

/-- That capital is a digit exactly if the character is one. -/
theorem isDigit_head_methodName (h : ∀ c ∈ t, c.isAlphanum = true ∨ c = '_') :
    (((t.dropWhile (· == '_')).head?.map Char.toUpper).getD 'A').isDigit = isDigitLed t := by
  unfold isDigitLed
  have hstop := List.head?_dropWhile_not (· == '_') t
  cases hfirst : (t.dropWhile (· == '_')).head? with
  | none => rfl
  | some c =>
    have hmem : c ∈ t := (List.dropWhile_suffix _).subset (List.mem_of_mem_head? hfirst)
    have hc : c ≠ '_' := by simpa [hfirst] using hstop
    exact (isAlphanum_cases ((h c hmem).resolve_right hc)).2.2

/-- **Names of methods.** For a function whose name is an identifier, the name of the method is letters
and digits. It is an identifier exactly if no digit stands directly behind the underscores at the front of
the function's name. -/
theorem identifier_methodName_iff (f : JsFunction) (h : IsAsciiIdentifier f.name) :
    (∀ c ∈ methodName f, c.isAlphanum = true) ∧
      (IsAsciiIdentifier (methodName f) ↔ isDigitLed f.name = false) := by
  have hname := h.isAlphanum_or
  have hall : ∀ c ∈ methodName f, c.isAlphanum = true := by
    intro c hc
    have hbehind : "Async".toList.all Char.isAlphanum = true := by decide
    rcases List.mem_append.1 hc with hc | hc
    · exact Naming.isAlphanum_of_mem_pascalCase hname c hc
    · exact List.all_eq_true.1 hbehind c hc
  refine ⟨hall, ?_⟩
  rw [isAsciiIdentifier_iff hall (head?_methodName hname), isDigit_head_methodName hname]

/-- A digit in front of a later word does no harm. -/
theorem identifier_methodName_get_2nd :
    IsAsciiIdentifier "__get_2nd".toList ∧
      (∀ c ∈ methodName { name := "__get_2nd".toList }, c.isAlphanum = true) ∧
      IsAsciiIdentifier (methodName { name := "__get_2nd".toList }) := by
  have hname : IsAsciiIdentifier "__get_2nd".toList := by decide
  obtain ⟨hall, hiff⟩ := identifier_methodName_iff { name := "__get_2nd".toList } hname
  exact ⟨hname, hall, hiff.2 (by decide)⟩

/-- An identifier may leave a name that begins with a digit. -/
theorem digit_begins_method :
    ¬ ∀ f : JsFunction, IsAsciiIdentifier f.name → IsAsciiIdentifier (methodName f) := by
  intro h
  have hmethod : methodName { name := "_2d".toList } = "2dAsync".toList := by decide +kernel
  have hid := h { name := "_2d".toList } (by decide)
  rw [hmethod] at hid
  exact absurd hid (by decide)

end Wrapper

end BlazorBridge

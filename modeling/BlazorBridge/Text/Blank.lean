import BlazorBridge.Text.Basic
import BlazorBridge.Text.CharSet

/-!
# Blanks

White space is the Unicode white space, with the four information separators U+001C to U+001F.
Zero-width characters and the byte order mark are not blank.
-/

namespace BlazorBridge

/-- White space characters. -/
def blanks : CharSet where
  changes :=
    [0x9, 0xe, 0x1c, 0x21, 0x85, 0x86, 0xa0, 0xa1, 0x1680, 0x1681, 0x2000, 0x200b, 0x2028, 0x202a,
     0x202f, 0x2030, 0x205f, 0x2060, 0x3000, 0x3001]

/-- Whether a character is white space. -/
def isBlank (c : Char) : Bool := blanks.contains c

namespace Text

/-- Whether a text holds nothing but white space. -/
def isBlank (t : Text) : Bool := t.all BlazorBridge.isBlank

/-- A text without the white space at its front. -/
def trimFront (t : Text) : Text := t.dropWhile BlazorBridge.isBlank

/-- A text without the white space at its end. -/
def trimBack (t : Text) : Text := (t.reverse.dropWhile BlazorBridge.isBlank).reverse

/-- A text without the white space at either end. -/
def trim (t : Text) : Text := trimBack (trimFront t)

theorem dropWhile_isBlank_eq_nil_iff {t : Text} :
    t.dropWhile BlazorBridge.isBlank = [] ↔ isBlank t = true := by
  induction t with
  | nil => simp [isBlank]
  | cons c t ih =>
    rw [isBlank, List.all_cons, List.dropWhile_cons]
    cases BlazorBridge.isBlank c with
    | true => rw [if_pos rfl, Bool.true_and, ih, isBlank]
    | false => simp

theorem isBlank_reverse (t : Text) : isBlank t.reverse = isBlank t := by
  simp [isBlank]

theorem isBlank_append (a b : Text) : isBlank (a ++ b) = (isBlank a && isBlank b) := by
  simp [isBlank]

/-- A text is blank exactly when nothing is left of it once it is trimmed. -/
theorem trim_eq_nil_iff {t : Text} : trim t = [] ↔ isBlank t = true := by
  rw [trim, trimBack, List.reverse_eq_nil_iff, dropWhile_isBlank_eq_nil_iff, isBlank_reverse,
    trimFront]
  constructor
  · intro h
    rw [← List.takeWhile_append_dropWhile (p := BlazorBridge.isBlank) (l := t), isBlank_append, h,
      Bool.and_true]
    exact List.all_takeWhile
  · intro h
    rw [dropWhile_isBlank_eq_nil_iff.2 h]
    rfl

theorem length_trim_le (t : Text) : (trim t).length ≤ t.length := by
  have h₁ := (List.dropWhile_suffix (l := t) BlazorBridge.isBlank).length_le
  have h₂ := (List.dropWhile_suffix (l := (trimFront t).reverse) BlazorBridge.isBlank).length_le
  simp only [trim, trimBack, trimFront, List.length_reverse] at *
  omega

end Text

end BlazorBridge

import BlazorBridge.Text.Quoted

/-!
# Faults of a template

Why a template cannot be expanded, as causes, each with its wording.
-/

namespace BlazorBridge.Template

/-- Why a template cannot be expanded. -/
inductive Fault where
  | unclosedKey
  | cutShort
  | widthTooBig
  | precisionTooBig
  | unknownConversion (c : Char) (position : Nat)
  | unknownKey (key : Text)
  | noValue
  | lengthNotWhole
  | notNumber (conversion : Char) (kind : Text)
  | notWhole (conversion : Char) (kind : Text)
  | notReal (kind : Text)
  | notSingle
  | tooManyDigits
  | noRoom
  deriving DecidableEq, Repr

/-- A character as it is shown in a fault; one that is not plain ASCII is a question mark. -/
def Fault.shownChar (c : Char) : Char := if 31 ≤ c.toNat && c.toNat ≤ 126 then c else '?'

/-- The wording of a fault. -/
def Fault.message : Fault → Text
  | .unclosedKey => "incomplete format key".toList
  | .cutShort => "incomplete format".toList
  | .widthTooBig => "width too big".toList
  | .precisionTooBig => "precision too big".toList
  | .unknownConversion c position =>
    "unsupported format character '".toList ++ [shownChar c] ++ "' (0x".toList ++
      Nat.toDigits 16 c.toNat ++ ") at index ".toList ++ Text.ofNat position
  | .unknownKey key => Text.quoted key
  | .noValue => "not enough arguments for format string".toList
  | .lengthNotWhole => "* wants int".toList
  | .notNumber conversion kind =>
    "%".toList ++ [conversion] ++ " format: a real number is required, not ".toList ++ kind
  | .notWhole conversion kind =>
    "%".toList ++ [conversion] ++ " format: an integer is required, not ".toList ++ kind
  | .notReal kind => "must be real number, not ".toList ++ kind
  | .notSingle => "%c requires int or char".toList
  | .tooManyDigits => "precision too large".toList
  | .noRoom => []

end BlazorBridge.Template

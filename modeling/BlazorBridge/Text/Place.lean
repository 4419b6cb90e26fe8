import BlazorBridge.Text.Basic

/-!
# Places in a text

A place is a point between two characters of a text. Scanning a text for occurrences of some form
goes from place to place: where the form is read, the scan goes on behind what was read, so that
occurrences never overlap and each is the first that begins at or after the end of the one before.
-/

namespace BlazorBridge

/-- A place in a text: what stands before it, the nearest character first, and what follows. -/
structure Place where
  before : Text
  after : Text

namespace Place

/-- How many characters stand before a place. -/
def offset (p : Place) : Nat := p.before.length

/-- The occurrences of a form from a place on, once `skip` more characters are passed. `read`
gives what the form reads at a place and how many characters it takes. -/
def scanFrom {α : Type} (read : Place → Option (α × Nat)) : Nat → Text → Text → List α
  | _, _, [] => []
  | skip + 1, before, c :: rest => scanFrom read skip (c :: before) rest
  | 0, before, c :: rest =>
    match read ⟨before, c :: rest⟩ with
    | none => scanFrom read 0 (c :: before) rest
    | some (found, taken) => found :: scanFrom read (taken - 1) (c :: before) rest

/-- The occurrences of a form in a text, from left to right. -/
def scan {α : Type} (read : Place → Option (α × Nat)) (t : Text) : List α :=
  scanFrom read 0 [] t

end Place

end BlazorBridge

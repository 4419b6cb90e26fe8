import BlazorBridge.Text.Basic

/-!
# UTF-8

Encoding and strict decoding. The decoder reads one byte at a time. Between characters nothing is
owed; inside one it knows how many bytes are still to come and the bounds of the next. The first
byte outside its bounds ends the decoding, and the fault names the longest run of bytes up to it
that could have begun a character.
-/

namespace BlazorBridge.Utf8

/-! ## Encoding -/

/-- A continuation byte with the given six bits. -/
def tailByte (n : Nat) : UInt8 := UInt8.ofNat (0x80 + n % 0x40)

/-- The bytes of one character. -/
def encodeChar (c : Char) : List UInt8 :=
  let n := c.toNat
  if n < 0x80 then [UInt8.ofNat n]
  else if n < 0x800 then [UInt8.ofNat (0xc0 + n / 0x40), tailByte n]
  else if n < 0x10000 then
    [UInt8.ofNat (0xe0 + n / 0x1000), tailByte (n / 0x40), tailByte n]
  else
    [UInt8.ofNat (0xf0 + n / 0x40000), tailByte (n / 0x1000), tailByte (n / 0x40), tailByte n]

/-- The bytes of a text. -/
def encode (t : Text) : List UInt8 := t.flatMap encodeChar

/-! ## Decoding -/

/-- Why bytes are no text. -/
inductive Reason where
  | badStart
  | badContinuation
  | cutShort
  deriving DecidableEq, Repr

/-- The first bytes that are no text: where they begin, the first of them, and how many. -/
structure Fault where
  reason : Reason
  position : Nat
  first : UInt8
  count : Nat
  deriving DecidableEq, Repr

/-- A character begun and not yet complete: the position and value of its first byte, how many
bytes are owed, the bounds of the next one, and the bits read so far. -/
structure Pending where
  position : Nat
  first : UInt8
  owed : Nat
  low : Nat
  high : Nat
  bits : Nat

/-- What a first byte calls for; none if no character begins with it. A byte that is a character
by itself owes nothing. The bounds of the second byte exclude overlong forms, surrogates and
code points beyond the last. -/
def begin? (position : Nat) (b : UInt8) : Option Pending :=
  let n := b.toNat
  if n < 0x80 then some ⟨position, b, 0, 0, 0, n⟩
  else if n < 0xc2 then none
  else if n < 0xe0 then some ⟨position, b, 1, 0x80, 0xbf, n - 0xc0⟩
  else if n = 0xe0 then some ⟨position, b, 2, 0xa0, 0xbf, 0⟩
  else if n = 0xed then some ⟨position, b, 2, 0x80, 0x9f, n - 0xe0⟩
  else if n < 0xf0 then some ⟨position, b, 2, 0x80, 0xbf, n - 0xe0⟩
  else if n = 0xf0 then some ⟨position, b, 3, 0x90, 0xbf, 0⟩
  else if n < 0xf4 then some ⟨position, b, 3, 0x80, 0xbf, n - 0xf0⟩
  else if n = 0xf4 then some ⟨position, b, 3, 0x80, 0x8f, n - 0xf0⟩
  else none

/-- A pending character with one more continuation byte. -/
def Pending.extend (p : Pending) (b : UInt8) : Pending :=
  { p with owed := p.owed - 1, low := 0x80, high := 0xbf, bits := p.bits * 0x40 + (b.toNat - 0x80) }

/-- Reads the bytes from `position` on. `read` holds the characters so far, the latest first. -/
def decodeFrom (position : Nat) (pending : Option Pending) (read : Text) :
    List UInt8 → Except Fault Text
  | [] =>
    match pending with
    | none => .ok read.reverse
    | some p => .error ⟨.cutShort, p.position, p.first, position - p.position⟩
  | b :: rest =>
    match pending with
    | none =>
      match begin? position b with
      | none => .error ⟨.badStart, position, b, 1⟩
      | some p =>
        if p.owed = 0 then decodeFrom (position + 1) none (Char.ofNat p.bits :: read) rest
        else decodeFrom (position + 1) (some p) read rest
    | some p =>
      if p.low ≤ b.toNat ∧ b.toNat ≤ p.high then
        let q := p.extend b
        if q.owed = 0 then decodeFrom (position + 1) none (Char.ofNat q.bits :: read) rest
        else decodeFrom (position + 1) (some q) read rest
      else .error ⟨.badContinuation, p.position, p.first, position - p.position⟩

/-- The text that the bytes encode. -/
def decode (bytes : List UInt8) : Except Fault Text := decodeFrom 0 none [] bytes

/-! ## Line ends -/

/-- Every line end written as one line feed: a carriage return counts as a line end, together
with the line feed that follows it, if any. -/
def unifyLineEnds : Text → Text
  | [] => []
  | '\r' :: '\n' :: rest => '\n' :: unifyLineEnds rest
  | c :: rest => (if c = '\r' then '\n' else c) :: unifyLineEnds rest

end BlazorBridge.Utf8

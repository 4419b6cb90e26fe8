import BlazorBridge.Template.Field

/-!
# Templates

A template is a text with directives, each of which begins with a percent sign and is replaced by a
value. A directive has, in this order, a key between parentheses, marks for the layout, a width, a point
with a precision, and the letter of a conversion; all but the letter may be left out. Two percent signs
stand for one. A directive without a key takes the whole table of values, and that only once and only in
front of all directives with a key.
-/

namespace BlazorBridge.Template

/-! ## Values for directives -/

/-- Where directives take their values from: the table that keys are looked up in, and the value to be
taken next, if there is one. -/
structure Supply where
  fields : List (Text × Value)
  next : Option Value
  deriving DecidableEq, Repr

namespace Supply

/-- What stands ready in front of the first directive: the table itself. -/
def ofFields (fields : List (Text × Value)) : Supply := ⟨fields, some (Value.table fields)⟩

/-- Makes the value of a key the next one. -/
def choose (s : Supply) (key : Text) : Except Fault Supply :=
  match s.fields.lookup key with
  | some value => .ok { s with next := some value }
  | none => .error (.unknownKey key)

/-- Takes the next value. -/
def take (s : Supply) : Except Fault (Value × Supply) :=
  match s.next with
  | some value => .ok (value, { s with next := none })
  | none => .error .noValue

end Supply

/-! ## Reading a directive -/

/-- A key and what follows its closing parenthesis. Parentheses inside the key come in pairs; `depth` is
the number of them that are still open. -/
def readKey (depth : Nat) : Text → Option (Text × Text)
  | [] => none
  | c :: rest =>
    if c = ')' ∧ depth = 0 then some ([], rest)
    else
      let depth := if c = '(' then depth + 1 else if c = ')' then depth - 1 else depth
      (readKey depth rest).map fun (key, rest) => (c :: key, rest)

/-- Looks up the key at the front of a directive, if it has one. -/
def chooseKey (s : Supply) : Text → Except Fault (Supply × Text)
  | '(' :: rest =>
    match readKey 0 rest with
    | some (key, rest) => (s.choose key).map fun s => (s, rest)
    | none => .error .unclosedKey
  | t => .ok (s, t)

/-- Whether a character is a mark for the layout. -/
def isMark (c : Char) : Bool := c == '-' || c == '+' || c == ' ' || c == '#' || c == '0'

/-- The layout that marks ask for. -/
def layoutOf (marks : Text) : Layout where
  flushLeft := marks.contains '-'
  plus := marks.contains '+'
  blank := marks.contains ' '
  alternate := marks.contains '#'
  zeros := marks.contains '0'

/-- The number with the given decimal digits. -/
def numberOf (digits : Text) : Nat := digits.foldl (fun n c => 10 * n + (c.toNat - '0'.toNat)) 0

/-- Reads a width or a precision: digits for a number up to `limit`, or a star for the next value, which
must be a truth value. Without either it is zero. -/
def readLength (limit : Nat) (tooBig : Fault) (s : Supply) :
    Text → Except Fault (Nat × Supply × Text)
  | '*' :: rest =>
    match s.take with
    | .error fault => .error fault
    | .ok (.truth b, s) => .ok (b.toNat, s, rest)
    | .ok _ => .error .lengthNotWhole
  | t =>
    let number := numberOf (t.takeWhile Char.isDigit)
    if limit < number then .error tooBig else .ok (number, s, t.dropWhile Char.isDigit)

/-- Reads a width. -/
def readWidth : Supply → Text → Except Fault (Nat × Supply × Text) :=
  readLength greatestWidth .widthTooBig

/-- Reads a point and a precision, if a point comes next. -/
def readPrecision (s : Supply) : Text → Except Fault (Option Nat × Supply × Text)
  | '.' :: rest =>
    (readLength greatestPrecision .precisionTooBig s rest).map fun (n, s, rest) => (some n, s, rest)
  | t => .ok (none, s, t)

/-- Passes a letter for the size of a number, which has no meaning. -/
def skipSize : Text → Text
  | c :: rest => if c = 'h' ∨ c = 'l' ∨ c = 'L' then rest else c :: rest
  | [] => []

/-- A directive: how its value is laid out, and the letter of its conversion. -/
structure Directive where
  layout : Layout
  letter : Char
  deriving DecidableEq, Repr

/-- Reads a directive behind its percent sign. -/
def readDirective (s : Supply) (t : Text) : Except Fault (Directive × Supply × Text) := do
  let (s, t) ← chooseKey s t
  let layout := layoutOf (t.takeWhile isMark)
  let (width, s, t) ← readWidth s (t.dropWhile isMark)
  let (precision, s, t) ← readPrecision s t
  match skipSize t with
  | letter :: rest => .ok (⟨{ layout with width, precision }, letter⟩, s, rest)
  | [] => .error .cutShort

/-! ## Expansion -/

/-- The widest field that there is room for. -/
def widestField : Nat := 0x40000000

/-- What a directive is replaced by; `position` is the place of its letter in the template. -/
def Directive.write (d : Directive) (position : Nat) (v : Value) : Except Fault Text :=
  match Conversion.ofLetter? d.letter with
  | none => .error (.unknownConversion d.letter position)
  | some conversion =>
    if d.layout.width ≤ widestField then conversion.write d.layout v
    else (conversion.write { d.layout with width := 0 } v).bind fun _ => .error .noRoom

/-- Expands a template from a position on, once `skip` more characters are passed. -/
def expandFrom (position skip : Nat) (s : Supply) : Text → Except Fault Text
  | [] => .ok []
  | c :: rest =>
    match skip with
    | skip + 1 => expandFrom (position + 1) skip s rest
    | 0 =>
      if c = '%' then
        if rest.head? = some '%' then (expandFrom (position + 1) 1 s rest).map ('%' :: ·)
        else
          match readDirective s rest with
          | .error fault => .error fault
          | .ok (directive, s, left) =>
            let length := rest.length - left.length
            match s.take with
            | .error fault => .error fault
            | .ok (value, s) =>
              match directive.write (position + length) value with
              | .error fault => .error fault
              | .ok field => (expandFrom (position + 1) length s rest).map (field ++ ·)
      else (expandFrom (position + 1) 0 s rest).map (c :: ·)

/-- Expands a template with the values of its keys. -/
def expand (fields : List (Text × Value)) (template : Text) : Except Fault Text :=
  expandFrom 0 0 (Supply.ofFields fields) template

theorem expandFrom_of_not_mem {t : Text} (h : '%' ∉ t) (position : Nat) (s : Supply) :
    expandFrom position 0 s t = .ok t := by
  induction t generalizing position with
  | nil => rfl
  | cons c t ih =>
    rw [List.mem_cons, not_or] at h
    rw [expandFrom, if_neg (Ne.symm h.1), ih h.2]
    rfl

/-- A template without a percent sign stands for itself. -/
theorem expand_of_not_mem {t : Text} (h : '%' ∉ t) (fields : List (Text × Value)) :
    expand fields t = .ok t :=
  expandFrom_of_not_mem h 0 _

end BlazorBridge.Template

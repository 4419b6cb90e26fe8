import BlazorBridge.Documentation.Comments

/-!
# Margins

Many declarations of one text share the lines above them. The margin of a place is the text in front of
it as lines; going through a text once gives the margin of every place, each built on the one before.
Main statement: the lines of a margin are the lines above the place (`linesAt_eq`).
-/

namespace BlazorBridge.Documentation

/-- The text in front of a place: what of it stands on the place's own line, the latest character
first, and the lines above that, trimmed, the nearest first. -/
structure Margin where
  own : Text
  above : List Text
  deriving DecidableEq, Repr

namespace Margin

/-- The margin at the start of a text. -/
def start : Margin := ⟨[], []⟩

/-- The margin one character further on. -/
def step (m : Margin) (c : Char) : Margin :=
  if c = '\n' then ⟨[], Text.trim m.own.reverse :: m.above⟩ else ⟨c :: m.own, m.above⟩

/-- The lines of a margin, the nearest first. The own line counts unless it is blank. -/
def lines (m : Margin) : List Text :=
  let own := Text.trim m.own.reverse
  if own.isEmpty then m.above else own :: m.above

/-- The margins of all places of a text, from a margin on. -/
def along (m : Margin) : Text → List Margin
  | [] => [m]
  | c :: rest => m :: along (m.step c) rest

theorem length_along (m : Margin) (t : Text) : (m.along t).length = t.length + 1 := by
  induction t generalizing m with
  | nil => rfl
  | cons c t ih => rw [along, List.length_cons, ih, List.length_cons]

/-- The margin of a place is made from the characters in front of it. -/
theorem getElem?_along (m : Margin) (t : Text) (n : Nat) (h : n ≤ t.length) :
    (m.along t)[n]? = some ((t.take n).foldl step m) := by
  induction t generalizing m n with
  | nil =>
    obtain rfl : n = 0 := by simpa using h
    rfl
  | cons c t ih =>
    cases n with
    | zero => rfl
    | succ n =>
      rw [along, List.getElem?_cons_succ, ih _ _ (by simpa using h)]
      rfl

theorem split_own {m : Margin} (h : '\n' ∉ m.own) :
    Text.split (· == '\n') m.own.reverse = [m.own.reverse] := by
  refine Text.split_eq_singleton fun c hc => ?_
  rw [beq_eq_false_iff_ne]
  rintro rfl
  exact h (List.mem_reverse.1 hc)

/-- Going on from a margin through a text gives the lines of both together. -/
theorem lines_foldl_step (m : Margin) (h : '\n' ∉ m.own) (t : Text) :
    ((Text.lines (m.own.reverse ++ t)).map Text.trim).reverse ++ m.above =
      Text.trim (t.foldl step m).own.reverse :: (t.foldl step m).above := by
  induction t generalizing m with
  | nil =>
    rw [List.append_nil, Text.lines, split_own h]
    rfl
  | cons c t ih =>
    rw [List.foldl_cons]
    by_cases hc : c = '\n'
    · rw [← ih (m.step c) (by simp [step, hc]), Text.lines, Text.split_append_sep (by simp [hc]),
        split_own h]
      simp [step, hc, Text.lines]
    · rw [← ih (m.step c) (by simp [step, hc, Ne.symm hc, h])]
      simp [step, hc]

/-- The lines of the margin behind a text are the lines above a declaration there. -/
theorem lines_foldl_start (before : Text) :
    (before.foldl step start).lines = linesAbove before := by
  have h := lines_foldl_step start (by simp [start]) before
  simp only [start, List.reverse_nil, List.nil_append, List.append_nil] at h
  rw [linesAbove, h]
  rfl

end Margin

/-- The lines above an offset of a text, looked up in the margins of the text. -/
def linesAt (t : Text) (margins : Array Margin) (offset : Int) : List Text :=
  match if 0 ≤ offset then margins[offset.toNat]? else none with
  | some m => m.lines
  | none => linesAbove (Text.upTo offset t)

/-- Looking up the lines above an offset gives the lines above it. -/
theorem linesAt_eq (t : Text) (offset : Int) :
    linesAt t (Margin.start.along t).toArray offset = linesAbove (Text.upTo offset t) := by
  unfold linesAt
  by_cases h : 0 ≤ offset
  · rw [if_pos h, List.getElem?_toArray]
    by_cases hn : offset.toNat ≤ t.length
    · rw [Margin.getElem?_along _ _ _ hn, Text.upTo, if_pos h]
      exact Margin.lines_foldl_start _
    · rw [List.getElem?_eq_none (by rw [Margin.length_along]; omega)]
  · rw [if_neg h]

end BlazorBridge.Documentation

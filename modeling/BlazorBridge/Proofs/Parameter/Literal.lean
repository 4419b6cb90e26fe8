import BlazorBridge.Proofs.Parameter.Rendering
import BlazorBridge.Proofs.Text.Marks

/-!
# Literals

The JavaScript literals that a default value can be, and the C# literals that can be written for them.
Of the texts in quotes both languages agree that the body is made of plain characters, which are neither
the quote nor a backslash, and of characters behind a backslash; C# has the double quote only. Of the
numbers C# has those with a digit behind the point, if there is one.

Main statement (`literal_written_iff`): what is written for a literal is a C# literal exactly if no bare
double quote stands directly behind an escaped backslash, and a number does not end its digits with the
point. Otherwise the backslash is taken for one that guards the quote, so the text ends there
(`text_cut_short`), or the number is written with its point.
-/

namespace BlazorBridge.Default

/-! ## Texts in quotes -/

/-- A character of a text in quotes, as it is or behind a backslash. -/
inductive Piece where
  | plain (c : Char)
  | escape (c : Char)
  deriving DecidableEq, Repr

/-- A piece as it is written. -/
def Piece.written : Piece → Text
  | plain c => [c]
  | escape c => ['\\', c]

/-- Whether a piece can stand between two quotes of a kind. -/
def Piece.fits (quote : Char) : Piece → Bool
  | plain c => c != quote && c != '\\'
  | escape _ => true

/-- Pieces one after another. -/
def bodyOf (pieces : List Piece) : Text := pieces.flatMap Piece.written

/-- Whether a text can stand between two quotes of a kind. -/
def isBody (quote : Char) : Text → Bool
  | [] => true
  | ['\\'] => false
  | '\\' :: _ :: rest => isBody quote rest
  | c :: rest => c != quote && isBody quote rest

theorem bodyOf_cons (p : Piece) (ps : List Piece) : bodyOf (p :: ps) = p.written ++ bodyOf ps :=
  List.flatMap_cons

theorem isBody_pair (quote c : Char) (t : Text) : isBody quote ('\\' :: c :: t) = isBody quote t := rfl

theorem isBody_cons {quote c : Char} (h : c ≠ '\\') (t : Text) :
    isBody quote (c :: t) = (c != quote && isBody quote t) := by
  rw [isBody]
  · simp [h]
  · intro d rest hc
    exact absurd hc h

/-- A text can stand between two quotes exactly if it is made of pieces that can. -/
theorem isBody_iff {quote : Char} {t : Text} :
    isBody quote t = true ↔ ∃ pieces, (∀ p ∈ pieces, p.fits quote = true) ∧ bodyOf pieces = t := by
  constructor
  · intro h
    fun_induction isBody quote t with
    | case1 => exact ⟨[], by simp, rfl⟩
    | case2 => simp at h
    | case3 c rest ih =>
      obtain ⟨pieces, hfits, rfl⟩ := ih h
      exact ⟨.escape c :: pieces, by simpa [Piece.fits] using hfits, rfl⟩
    | case4 c rest hend hpair ih =>
      simp only [Bool.and_eq_true, bne_iff_ne] at h
      obtain ⟨pieces, hfits, rfl⟩ := ih h.2
      have hc : c ≠ '\\' := by
        rintro rfl
        cases hbody : bodyOf pieces with
        | nil => exact hend rfl hbody
        | cons d rest => exact hpair d rest rfl hbody
      exact ⟨.plain c :: pieces, by simpa [Piece.fits, h.1, hc] using hfits, rfl⟩
  · rintro ⟨pieces, hfits, rfl⟩
    induction pieces with
    | nil => rfl
    | cons p ps ih =>
      have hrest := ih fun q hq => hfits q (by simp [hq])
      have hp := hfits p (by simp)
      rw [bodyOf_cons]
      cases p with
      | escape c => exact hrest
      | plain c =>
        simp only [Piece.fits, Bool.and_eq_true, bne_iff_ne] at hp
        rw [Piece.written, List.singleton_append, isBody_cons hp.2, hrest]
        simpa using hp.1

/-! ## Literals -/

/-- A JavaScript text in single or double quotes. Line ends may stand in it, so texts that go on over
several lines are among these. -/
structure QuotedText where
  quote : Char
  pieces : List Piece
  isQuote : quote = '\'' ∨ quote = '"'
  fits : ∀ p ∈ pieces, p.fits quote = true

/-- A quoted text as it is written. -/
def QuotedText.written (t : QuotedText) : Text := t.quote :: (bodyOf t.pieces ++ [t.quote])

/-- The digits of a JavaScript number, with the mark that may separate them. -/
def isSeparatedDigit (c : Char) : Bool := c.isDigit || c == '_'

/-- A JavaScript literal that a default value can be. Marks may stand anywhere among the digits of a
number, and zeros in front of them, so these are some more than JavaScript admits. -/
inductive JsLiteral where
  | word (w : Text)
      (isWord : w ∈ ["true".toList, "false".toList, "null".toList, "undefined".toList])
  | number (n : Numeral isSeparatedDigit)
  | text (t : QuotedText)

namespace JsLiteral

/-- A literal as it is written. -/
def written : JsLiteral → Text
  | word w _ => w
  | number n => n.written
  | text t => t.written

/-- Whether a literal can be written in C# by keeping its number and its escaped characters. A number
with marks in it is never kept. -/
def IsPortable : JsLiteral → Prop
  | word _ _ => True
  | number n => n.fraction = some [] → '_' ∈ n.written
  | text t => ¬ [Piece.escape '\\', .plain '"'] <:+: t.pieces

end JsLiteral

/-- A C# literal: a truth value or null, a number with a digit behind the point, if it has one, or a text
in double quotes. -/
inductive IsCSharpLiteral : Text → Prop where
  | word {t : Text} (h : t ∈ ["true".toList, "false".toList, "null".toList]) : IsCSharpLiteral t
  | number (n : Numeral Char.isDigit) (h : n.fraction ≠ some []) : IsCSharpLiteral n.written
  | text {pieces : List Piece} (h : ∀ p ∈ pieces, p.fits '"' = true) :
      IsCSharpLiteral ('"' :: (bodyOf pieces ++ ['"']))

/-! ## Written texts -/

/-- Only a plain piece begins with a double quote. -/
theorem head?_bodyOf {pieces : List Piece} (h : (bodyOf pieces).head? = some '"') :
    ∃ rest, pieces = .plain '"' :: rest := by
  match pieces with
  | [] => simp [bodyOf] at h
  | .plain c :: rest =>
    rw [bodyOf_cons, Piece.written, List.singleton_append, List.head?_cons, Option.some.injEq] at h
    exact ⟨rest, by rw [h]⟩
  | .escape c :: rest => simp [bodyOf_cons, Piece.written] at h

section

variable {c : Char} {t : Text}

theorem isBody_requote_plain (hc : c ≠ '\\') :
    isBody '"' (requote (c :: t)) = isBody '"' (requote t) := by
  by_cases hquote : c = '"'
  · rw [hquote, requote_quote, isBody_pair]
  · rw [requote_cons hquote fun h => absurd h hc, isBody_cons hc, bne_iff_ne.2 hquote, Bool.true_and]

theorem isBody_requote_escape (hc : c ≠ '\\') :
    isBody '"' (requote ('\\' :: c :: t)) = isBody '"' (requote t) := by
  by_cases hquote : c = '"'
  · rw [hquote, requote_escaped, isBody_pair]
  · rw [requote_cons (by decide) fun _ => by simpa using hquote,
      requote_cons hquote fun h => absurd h hc, isBody_pair]

theorem isBody_requote_backslash (ht : t.head? ≠ some '"') :
    isBody '"' (requote ('\\' :: '\\' :: t)) = isBody '"' (requote t) := by
  rw [requote_cons (by decide) fun _ => by simp, requote_cons (by decide) fun _ => ht, isBody_pair]

/-- The second backslash is taken for the guard of the quote, so both stay as they are, and the quote is
left bare. -/
theorem isBody_requote_cut : isBody '"' (requote ('\\' :: '\\' :: '"' :: t)) = false := by
  rw [requote_cons (by decide) fun _ => by simp, requote_escaped, isBody_pair,
    isBody_cons (by decide), bne_self_eq_false, Bool.false_and]

end

/-- Quotes are escaped well exactly if none stands bare behind an escaped backslash. -/
theorem isBody_requote_iff {pieces : List Piece} (h : .plain '\\' ∉ pieces) :
    isBody '"' (requote (bodyOf pieces)) = true ↔
      ¬ [Piece.escape '\\', .plain '"'] <:+: pieces := by
  induction pieces with
  | nil => simp [bodyOf, requote_nil, isBody]
  | cons p ps ih =>
    rw [List.mem_cons, not_or] at h
    obtain ⟨hp, hps⟩ := h
    rw [bodyOf_cons, List.infix_cons_iff, List.cons_prefix_cons]
    -- Only an escaped backslash can be the first of the two pieces.
    by_cases hbackslash : p = .escape '\\'
    · subst hbackslash
      by_cases hquote : (bodyOf ps).head? = some '"'
      · obtain ⟨rest, rfl⟩ := head?_bodyOf hquote
        have hcut : isBody '"' (requote ((Piece.escape '\\').written ++ bodyOf (.plain '"' :: rest))) =
            false := isBody_requote_cut
        rw [hcut]
        simp
      · have hnot : ¬ [Piece.plain '"'] <+: ps := by
          rintro ⟨rest, rfl⟩
          exact hquote rfl
        have hkeep : isBody '"' (requote ((Piece.escape '\\').written ++ bodyOf ps)) =
            isBody '"' (requote (bodyOf ps)) := isBody_requote_backslash hquote
        rw [hkeep, ih hps]
        simp [hnot]
    · have hkeep : isBody '"' (requote (p.written ++ bodyOf ps)) = isBody '"' (requote (bodyOf ps)) := by
        cases p with
        | plain c => exact isBody_requote_plain (by simpa [eq_comm] using hp)
        | escape c => exact isBody_requote_escape (by simpa using hbackslash)
      rw [hkeep, ih hps]
      simp [Ne.symm hbackslash]

/-- A text in double quotes is a C# literal exactly if what stands between them is made of pieces. -/
theorem isCSharpLiteral_text_iff {body : Text} :
    IsCSharpLiteral ('"' :: (body ++ ['"'])) ↔ isBody '"' body = true := by
  rw [isBody_iff]
  constructor
  · generalize hwritten : '"' :: (body ++ ['"']) = t
    intro h
    cases h with
    | word h =>
      rw [← hwritten] at h
      simp at h
    | number n h =>
      have hmem : '"' ∈ n.written := by rw [← hwritten]; simp
      exact absurd hmem (n.not_mem_written (by decide) (by decide))
    | @text pieces h =>
      refine ⟨pieces, h, ?_⟩
      simpa using hwritten.symm
  · rintro ⟨pieces, hfits, rfl⟩
    exact .text hfits

theorem QuotedText.isCSharpLiteral_render_iff (t : QuotedText) :
    IsCSharpLiteral (render t.written) ↔ ¬ [Piece.escape '\\', .plain '"'] <:+: t.pieces := by
  have hplain : Piece.plain '\\' ∉ t.pieces := by
    intro hmem
    have hfits := t.fits _ hmem
    simp [Piece.fits] at hfits
  rw [written, render_text t.isQuote, isCSharpLiteral_text_iff, isBody_requote_iff hplain]

/-! ## Written numbers -/

/-- Where a number is cut at its point. -/
theorem Numeral.cut_written {digit : Char → Bool} (hpoint : digit '.' = false) (n : Numeral digit) :
    Text.cut '.' n.written = n.fraction.map fun f => (n.sign ++ n.whole, f ++ n.ending) := by
  have hsign : '.' ∉ n.sign := by
    intro h
    rcases n.isSign.mem_cases h with h | h <;> exact absurd h (by decide)
  have hwhole : '.' ∉ n.whole := by
    intro h
    rw [n.isWhole '.' h] at hpoint
    exact absurd hpoint (by simp)
  have hending : '.' ∉ n.ending := by
    intro h
    rcases n.mem_ending h with h | h
    · rw [h] at hpoint
      exact absurd hpoint (by simp)
    · exact absurd h (by decide)
  cases hfraction : n.fraction with
  | none =>
    rw [Option.map_none, Text.cut_eq_none_iff, written, hfraction]
    simp [pointed, hsign, hwhole, hending]
  | some f =>
    rw [Option.map_some, Text.cut_eq_some_iff, written, hfraction]
    simp [pointed, hsign, hwhole]

/-- A number is one over other digits too, if these hold all digits in it. -/
theorem Numeral.exists_recast {digit other : Char → Bool} (n : Numeral digit)
    (h : ∀ c ∈ n.written, digit c = true → other c = true) :
    ∃ m : Numeral other, m.written = n.written ∧ m.fraction = n.fraction := by
  obtain ⟨sign, whole, fraction, exponent, hsign, hwhole, hfraction, hdigits⟩ := n
  have hwhole' : ∀ c ∈ whole, other c = true :=
    fun c hc => h c (by simp [written, hc]) (hwhole c hc)
  have hfraction' : ∀ f ∈ fraction, ∀ c ∈ f, other c = true := by
    rintro f rfl c hc
    exact h c (by simp [written, pointed, hc]) (hfraction f rfl c hc)
  cases exponent with
  | none => exact ⟨⟨sign, whole, fraction, none, hsign, hwhole', hfraction', hdigits⟩, rfl, rfl⟩
  | some e =>
    obtain ⟨mark, esign, power, hmark, hesign, hne, hpower⟩ := e
    have hpower' : ∀ c ∈ power, other c = true :=
      fun c hc => h c (by simp [written, ending, Exponent.written, hc]) (hpower c hc)
    exact ⟨⟨sign, whole, fraction, some ⟨mark, esign, power, hmark, hesign, hne, hpower'⟩, hsign,
      hwhole', hfraction', hdigits⟩, rfl, rfl⟩

theorem isDigit_of_decimal {c : Char} (h : c.isDigit = true) : isDigit c = true := by
  have hrange : 0x30 ≤ c.toNat ∧ c.toNat < 0x3a := by
    simp only [Char.isDigit, Bool.and_eq_true, decide_eq_true_eq, ge_iff_le, UInt32.le_iff_toNat_le] at h
    exact ⟨h.1, Nat.lt_succ_of_le h.2⟩
  exact (CharSet.inside_cons_cons (by decide) _ _).2 (.inl hrange)

/-- A number of C# does not end its digits with the point. -/
theorem Numeral.not_isCSharpLiteral {n : Numeral Char.isDigit} (hbare : n.fraction = some []) :
    ¬ IsCSharpLiteral n.written := by
  have hcut := n.cut_written (by decide)
  have hforeign : ∀ c, c.isDigit = false → c ∉ "+-.eE".toList → c ∉ n.written :=
    fun c => n.not_mem_written
  rw [hbare, Option.map_some, List.nil_append] at hcut
  generalize n.written = t at hcut hforeign
  intro h
  cases h with
  | word h =>
    simp only [List.mem_cons, List.not_mem_nil, or_false] at h
    rcases h with rfl | rfl | rfl
    · exact hforeign 't' (by decide) (by decide) (by decide)
    · exact hforeign 'f' (by decide) (by decide) (by decide)
    · exact hforeign 'n' (by decide) (by decide) (by decide)
  | number m hm =>
    -- Both are cut at the same point, but behind that of `m` stands a digit.
    rw [m.cut_written (by decide), Option.map_eq_some_iff] at hcut
    obtain ⟨f, hf, heq⟩ := hcut
    obtain ⟨-, hends⟩ := Prod.mk.inj heq
    cases f with
    | nil => exact hm hf
    | cons c f =>
      have hdigit := m.isFraction _ hf c (by simp)
      rcases n.head?_ending (by rw [← hends]; rfl) with rfl | rfl <;> exact absurd hdigit (by decide)
  | text h => exact hforeign '"' (by decide) (by decide) (by simp)

/-- What is neither a text in quotes nor a number is written as a word. -/
theorem isCSharpLiteral_render_of_none {t : Text} (hquoted : unquote? (Text.trim t) = none)
    (hnumber : isNumber (Text.trim t) = false) : IsCSharpLiteral (render t) := by
  rcases render_cases t with hword | ⟨inner, hinner, -⟩ | ⟨hkept, -, -⟩
  · exact .word hword
  · exact absurd hinner (by simp [hquoted])
  · exact absurd hkept (by simp [hnumber])

theorem Numeral.isCSharpLiteral_render_iff (n : Numeral isSeparatedDigit) :
    IsCSharpLiteral (render n.written) ↔ (n.fraction = some [] → '_' ∈ n.written) := by
  by_cases hmark : '_' ∈ n.written
  · refine iff_of_true (isCSharpLiteral_render_of_none ?_ ?_) fun _ => hmark
    · rw [Option.eq_none_iff_forall_not_mem]
      intro inner hinner
      obtain ⟨quote, hquote, htrim⟩ := unquote?_eq_some_iff.1 hinner
      have hmem : quote ∈ n.written := (Text.infix_trim n.written).subset (by simp [htrim])
      rcases hquote with rfl | rfl
      · exact n.not_mem_written (by decide) (by decide) hmem
      · exact n.not_mem_written (by decide) (by decide) hmem
    · rw [Bool.eq_false_iff]
      intro h
      exact not_mem_of_isNumber h (by decide) (by decide) (Text.mem_trim (by decide) hmark)
  · have hdecimal : ∀ c ∈ n.written, isSeparatedDigit c = true → c.isDigit = true := by
      intro c hc hdigit
      rcases Bool.or_eq_true_iff.1 hdigit with h | h
      · exact h
      · rw [beq_iff_eq.1 h] at hc
        exact absurd hc hmark
    obtain ⟨m, hwritten, hfraction⟩ := n.exists_recast hdecimal
    obtain ⟨k, hread, -⟩ := m.exists_recast fun c _ => isDigit_of_decimal
    rw [render_number (isNumber_iff.2 ⟨k, hread.trans hwritten⟩), ← hwritten, ← hfraction]
    constructor
    · intro h hbare
      exact absurd h (m.not_isCSharpLiteral hbare)
    · intro h
      refine .number m fun hbare => hmark ?_
      rw [← hwritten]
      exact h hbare

/-! ## Written literals -/

/-- **The literals that C# can read.** What is written for a literal is a C# literal exactly if no bare
double quote stands directly behind an escaped backslash, and no number ends its digits with the point. -/
theorem literal_written_iff (l : JsLiteral) : IsCSharpLiteral (render l.written) ↔ l.IsPortable := by
  cases l with
  | word w isWord =>
    have hwords : ∀ w ∈ ["true".toList, "false".toList, "null".toList, "undefined".toList],
        render w ∈ ["true".toList, "false".toList, "null".toList] := by
      decide +kernel
    exact iff_of_true (.word (hwords w isWord)) trivial
  | number n => exact n.isCSharpLiteral_render_iff
  | text t => exact t.isCSharpLiteral_render_iff

/-- A backslash and a double quote, in single quotes. -/
def backslashQuote : QuotedText where
  quote := '\''
  pieces := [.escape '\\', .plain '"']
  isQuote := .inl rfl
  fits := by simp [Piece.fits]

/-- Five, with a point behind it. -/
def pointedFive {digit : Char → Bool} (h : digit '5' = true) : Numeral digit where
  sign := []
  whole := ['5']
  fraction := some []
  exponent := none
  isSign := .inl rfl
  isWhole := List.forall_mem_singleton.2 h
  isFraction := by simp
  hasDigits := .inl (List.cons_ne_nil '5' [])

/-- The text ends at its first quote and another stands behind it; the number keeps its point. -/
theorem text_cut_short :
    (JsLiteral.text backslashQuote).written = "'\\\\\"'".toList ∧
    render "'\\\\\"'".toList = "\"\\\\\"\"".toList ∧
    ¬ IsCSharpLiteral "\"\\\\\"\"".toList ∧
    (JsLiteral.number (pointedFive rfl)).written = "5.".toList ∧ render "5.".toList = "5.".toList ∧
    ¬ IsCSharpLiteral "5.".toList := by
  refine ⟨by decide +kernel, by decide +kernel, ?_, by decide +kernel, by decide +kernel, ?_⟩
  · have hbody : isBody '"' ['\\', '\\', '"'] = false := by decide
    exact fun h => Bool.false_ne_true (hbody.symm.trans (isCSharpLiteral_text_iff.1 h))
  · exact Numeral.not_isCSharpLiteral (n := pointedFive rfl) rfl

end BlazorBridge.Default

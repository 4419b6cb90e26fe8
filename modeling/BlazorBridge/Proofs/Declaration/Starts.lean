import BlazorBridge.Declaration.Candidate
import BlazorBridge.Proofs.Declaration.Grammar
import BlazorBridge.Proofs.Text.Scan

/-!
# Where declarations start

A place of a text is a start of a shape when the grammar of the shape allows a declaration there and
the place is a word boundary. Main statement (`candidates_select_starts`): what a start says is
settled by the place, no place is a start of both shapes, and the candidates of a shape are its
leftmost starts, of which only those are left out that lie inside the span of an earlier one.
-/

namespace BlazorBridge

/-- Of the characters around a place, exactly one is a word character. -/
def WordBoundary (before after : Text) : Prop :=
  before.getLast?.any isWord ≠ after.head?.any isWord

/-- A place in front of a word character is a boundary where no word character stands before it. -/
theorem wordBoundary_cons_iff {before after : Text} {c : Char} (hc : isWord c = true) :
    WordBoundary before (c :: after) ↔ before.getLast?.any isWord = false := by
  rw [WordBoundary, List.head?_cons, Option.any_some, hc, Ne, Bool.not_eq_true]

namespace Signature

/-! ## Starts -/

/-- A start of a shape in a text: the text has a declaration of the shape there, at a word boundary.
`form s rest w` says that `w` is a declaration with the signature `s` in front of `rest`. -/
def Starts (form : Signature → Text → Text → Prop) (t : Text) (m : Match Signature) : Prop :=
  ∃ before w rest, t = before ++ (w ++ rest) ∧ m.start = before.length ∧
    m.stop = before.length + w.length ∧ WordBoundary before (w ++ rest) ∧ form m.found rest w

/-- The starts of functions. -/
def FunctionStart : Text → Match Signature → Prop := Starts fun s _ w => FunctionForm s w

/-- The starts of arrows. -/
def ArrowStart : Text → Match Signature → Prop := Starts ArrowForm

/-- A reader of declarations reads what a grammar allows, and a declaration begins with a word
character. -/
structure Reads (read : Text → Option (Signature × Text))
    (form : Signature → Text → Text → Prop) : Prop where
  iff : ∀ {t rest : Text} {s : Signature},
    read t = some (s, rest) ↔ ∃ w, form s rest w ∧ t = w ++ rest
  word : ∀ {s : Signature} {rest w : Text}, form s rest w → ∃ c u, w = c :: u ∧ isWord c = true

theorem FunctionForm.eq_cons {s : Signature} {w : Text} (h : FunctionForm s w) :
    ∃ c u, w = c :: u ∧ isWord c = true := by
  cases h with
  | @intro exported w₁ w₂ w₃ w₄ w₅ w₆ w₇ h₁ h₂ h₃ =>
  obtain ⟨u₃, rfl⟩ := KeywordForm.eq_cons (c := 'f') h₃
  obtain ⟨c, u, hu, hc⟩ := h₂.append_eq_cons (b := 'f')
    (u₃ ++ [s.name, w₄, ['('], s.parameters, [')'], w₅, w₆, w₇, ['{']].flatten)
  obtain ⟨d, v, hv, hd⟩ := h₁.append_eq_cons (b := c) u
  refine ⟨d, v, ?_, ?_⟩
  · rw [← hv, ← hu]
    rfl
  · rcases hd with rfl | rfl
    · decide
    · rcases hc with rfl | rfl <;> decide

theorem ArrowHead.eq_cons {s : Signature} {w : Text} (h : ArrowHead s w) :
    ∃ c u, w = c :: u ∧ isWord c = true := by
  cases h with
  | @intro exported binder w₁ w₂ w₃ w₄ w₅ w₆ w₇ w₈ h₁ hbound h₂ =>
  obtain ⟨c, u, rfl, hc, -⟩ := KeywordForm.binder_eq_cons hbound h₂
  obtain ⟨d, v, hv, hd⟩ := h₁.append_eq_cons (b := c)
    (u ++ [s.name, w₃, ['='], w₄, w₅, ['('], s.parameters, [')'], w₆, w₇, w₈, ['=', '>']].flatten)
  refine ⟨d, v, hv, ?_⟩
  rcases hd with rfl | rfl
  · decide
  · exact hc

theorem reads_function : Reads function? fun s _ w => FunctionForm s w where
  iff := function?_eq_some_iff
  word := FunctionForm.eq_cons

theorem reads_arrow : Reads arrow? ArrowForm where
  iff := arrow?_eq_some_iff
  word := by
    intro s rest w h
    cases h with
    | @intro head tail harrow htail hmax =>
    obtain ⟨c, u, rfl, hc⟩ := harrow.eq_cons
    exact ⟨c, u ++ tail, rfl, hc⟩

/-- A start is settled by its place: the signature there and the end of the declaration are. -/
theorem Reads.starts_eq {read : Text → Option (Signature × Text)}
    {form : Signature → Text → Text → Prop} (h : Reads read form) {t : Text}
    {k l : Match Signature} (hk : Starts form t k) (hl : Starts form t l)
    (heq : k.start = l.start) : k = l := by
  obtain ⟨before, w, rest, ht, hks, hke, -, hkf⟩ := hk
  obtain ⟨before', w', rest', ht', hls, hle, -, hlf⟩ := hl
  have hsplit := ht.symm.trans ht'
  obtain ⟨rfl, htext⟩ := List.append_inj hsplit (by omega)
  have hread := h.iff.2 ⟨w, hkf, rfl⟩
  rw [htext, h.iff.2 ⟨w', hlf, rfl⟩, Option.some.injEq, Prod.mk.injEq] at hread
  obtain ⟨hfound, rfl⟩ := hread
  obtain rfl := List.append_cancel_right htext
  cases k
  cases l
  simp_all

/-- At a start the reader of a shape reads what the start says. -/
theorem Reads.exists_read {read : Text → Option (Signature × Text)}
    {form : Signature → Text → Text → Prop} (h : Reads read form) {t : Text} {m : Match Signature}
    (hm : Starts form t m) : ∃ rest, read (t.drop m.start) = some (m.found, rest) := by
  obtain ⟨before, w, rest, rfl, hs, -, -, hw⟩ := hm
  rw [hs, List.drop_left]
  exact ⟨rest, h.iff.2 ⟨w, hw, rfl⟩⟩

/-- A declaration is never empty. -/
theorem Reads.start_lt_stop {read : Text → Option (Signature × Text)}
    {form : Signature → Text → Text → Prop} (h : Reads read form) {t : Text} (m : Match Signature)
    (hm : Starts form t m) : m.start < m.stop := by
  obtain ⟨before, w, rest, -, hs, he, -, hw⟩ := hm
  obtain ⟨c, u, rfl, -⟩ := h.word hw
  rw [hs, he, List.length_cons]
  omega

/-- No text can be read as both shapes: behind the keyword that both may begin with, a function goes
on with other letters than an arrow. -/
theorem not_function?_and_arrow? {t rest rest' : Text} {s s' : Signature}
    (hf : function? t = some (s, rest)) (ha : arrow? t = some (s', rest')) : False := by
  unfold function? at hf
  unfold arrow? at ha
  rcases h₁ : optionalKeyword "export".toList t with ⟨exported, t₁⟩
  rcases h₂ : optionalKeyword "async".toList t₁ with ⟨isAsync, t₂⟩
  simp only [h₁, h₂, Option.bind_eq_bind, Option.bind_eq_some_iff] at hf ha
  obtain ⟨t₃, h₃, -⟩ := hf
  obtain ⟨t₄, h₄, -⟩ := ha
  obtain ⟨w₂, hw₂, rfl⟩ := optionalForm_of_eq h₂
  obtain ⟨w₃, hw₃, rfl, -⟩ := keyword?_eq_some_iff.1 h₃
  obtain ⟨binder, w₄, hbound, hw₄, ht₁⟩ := binder?_eq_some h₄
  obtain ⟨u, rfl⟩ := KeywordForm.eq_cons (c := 'f') hw₃
  obtain ⟨c, v, hv, hc⟩ := hw₂.append_eq_cons (b := 'f') (u ++ t₃)
  obtain ⟨d, x, rfl, -, -, hda, hdf⟩ := KeywordForm.binder_eq_cons hbound hw₄
  rw [List.cons_append, hv, List.cons_append] at ht₁
  obtain ⟨rfl, -⟩ := List.cons.inj ht₁
  rcases hc with hc | hc
  · exact hda hc
  · exact hdf hc

end Signature

namespace Candidate

open Signature (Starts FunctionStart ArrowStart Reads)

/-! ## Candidates -/

/-- The candidate for a start: it says what the start says, and counts as asynchronous also when the
keyword stands in the window before it. -/
def ofMatch (shape : Shape) (t : Text) (m : Match Signature) : Candidate where
  name := m.found.name
  parameters := m.found.parameters
  result := m.found.result
  start := m.start
  stop := m.stop
  isAsync := m.found.isAsync || asyncBefore (Place.ofOffset t m.start)
  shape := shape

/-- The occurrence of a candidate for a start. -/
def matchOf (shape : Shape) (t : Text) (m : Match Signature) : Match Candidate :=
  ⟨m.start, ofMatch shape t m, m.stop⟩

variable {shape : Shape} {read : Text → Option (Signature × Text)}
  {form : Signature → Text → Text → Prop}

/-- A candidate takes the characters of its declaration. -/
theorem proper_atPlace (h : Reads read form) : Place.Proper (atPlace shape read) := by
  intro p c n hp
  unfold atPlace at hp
  split at hp
  · simp at hp
  · obtain ⟨⟨s, rest⟩, hr, hc⟩ := Option.map_eq_some_iff.1 hp
    obtain ⟨w, hw, ht⟩ := h.iff.1 hr
    obtain ⟨d, u, rfl, -⟩ := h.word hw
    obtain ⟨-, rfl⟩ := Prod.mk.inj hc
    rw [ht, List.length_append, List.length_cons]
    omega

/-- Behind a boundary that a word character follows stands no word character. -/
theorem startsWithWord_reverse_iff {before : Text} {c : Char} (hc : isWord c = true)
    (after : Text) :
    Text.startsWithWord before.reverse = false ↔ WordBoundary before (c :: after) := by
  rw [wordBoundary_cons_iff hc]
  rcases List.eq_nil_or_concat before with rfl | ⟨u, d, rfl⟩
  · simp [Text.startsWithWord]
  · simp [Text.startsWithWord]

/-- The candidate that is read in front of a declaration. -/
theorem atPlace_append (shape : Shape) (h : Reads read form) {before w rest : Text} {s : Signature}
    (hb : WordBoundary before (w ++ rest)) (hw : form s rest w) :
    atPlace shape read ⟨before.reverse, w ++ rest⟩ =
      some (ofMatch shape (before ++ (w ++ rest)) ⟨before.length, s, before.length + w.length⟩,
        w.length) := by
  obtain ⟨c, u, hcu, hc⟩ := h.word hw
  have hword : Text.startsWithWord before.reverse = false := by
    rw [startsWithWord_reverse_iff hc (u ++ rest), ← List.cons_append, ← hcu]
    exact hb
  have hlength : (w ++ rest).length - rest.length = w.length := by simp
  unfold atPlace
  rw [if_neg (by simp [hword]), h.iff.2 ⟨w, hw, rfl⟩, Option.map_some]
  dsimp only
  rw [hlength]
  simp [ofMatch, Place.ofOffset, Place.offset]

/-- The occurrences of candidates are those of the starts of their shape. -/
theorem matchIn_atPlace_iff (h : Reads read form) {t : Text} {m : Match Candidate} :
    Place.MatchIn (atPlace shape read) t m ↔ ∃ k, Starts form t k ∧ matchOf shape t k = m := by
  constructor
  · rintro ⟨n, hn, hr⟩
    have hstart : m.start ≤ t.length := by
      have := proper_atPlace h _ _ _ hr
      simp only [Place.ofOffset, List.length_drop] at this
      omega
    -- What is read there comes with the parts of the text, and these settle the occurrence.
    obtain ⟨s, rest, hs, hb⟩ : ∃ s rest, read (t.drop m.start) = some (s, rest) ∧
        Text.startsWithWord (t.take m.start).reverse = false := by
      unfold atPlace Place.ofOffset at hr
      split at hr
      · simp at hr
      · rename_i hb
        obtain ⟨⟨s, rest⟩, hs, -⟩ := Option.map_eq_some_iff.1 hr
        exact ⟨s, rest, hs, by simpa using hb⟩
    obtain ⟨w, hw, ht⟩ := h.iff.1 hs
    obtain ⟨c, u, hcu, hc⟩ := h.word hw
    have hbound : WordBoundary (t.take m.start) (w ++ rest) := by
      rw [startsWithWord_reverse_iff hc (u ++ rest), ← List.cons_append, ← hcu] at hb
      exact hb
    have htext : t.take m.start ++ (w ++ rest) = t := by rw [← ht, List.take_append_drop]
    have hread := atPlace_append shape h hbound hw
    have hlen : (t.take m.start).length = m.start := by simp [hstart]
    rw [htext, ← ht, hlen] at hread
    rw [Place.ofOffset, hread, Option.some.injEq, Prod.mk.injEq] at hr
    obtain ⟨hfound, rfl⟩ := hr
    refine ⟨⟨m.start, s, m.start + w.length⟩,
      ⟨t.take m.start, w, rest, htext.symm, hlen.symm, by rw [hlen], hbound, hw⟩, ?_⟩
    rw [matchOf, hfound, ← hn]
  · rintro ⟨k, ⟨before, w, rest, rfl, hs, he, hb, hw⟩, rfl⟩
    refine ⟨w.length, by rw [matchOf, hs, he], ?_⟩
    have hread := atPlace_append shape h hb hw
    rw [← he, ← hs] at hread
    rw [matchOf, hs, Place.ofOffset_append, hread]

/-- The candidates of a shape are the leftmost of its starts. -/
theorem scan_atPlace (shape : Shape) (h : Reads read form) (t : Text) :
    ∃ ks, IsSelection (Starts form t) ks ∧ (∀ ls, IsSelection (Starts form t) ls → ls = ks) ∧
      Place.scan (atPlace shape read) t = ks.map (ofMatch shape t) := by
  obtain ⟨ms, hscan, hms⟩ := Place.scan_isSelection (proper_atPlace h) t
  have hfun : ∀ k l, Starts form t k → Starts form t l → k.start = l.start → k = l :=
    fun k l => h.starts_eq
  obtain ⟨ks, rfl, hks⟩ := hms.exists_map (f := matchOf shape t) (fun _ => rfl) (fun _ => rfl)
    (fun m => matchIn_atPlace_iff h) hfun
  refine ⟨ks, hks, ?_, by rw [hscan, List.map_map]; rfl⟩
  intro ls hls
  exact IsSelection.unique h.start_lt_stop hfun hls hks

/-- **Candidates are the leftmost starts.** Each place of a text has at most one start of each shape,
with its signature and its end, and none of both shapes. The candidates of a shape are the one
selection of its starts that leaves out only what lies inside an earlier declaration. -/
theorem candidates_select_starts (t : Text) :
    (∀ k l, FunctionStart t k → FunctionStart t l → k.start = l.start → k = l) ∧
    (∀ k l, ArrowStart t k → ArrowStart t l → k.start = l.start → k = l) ∧
    (∃ ks, IsSelection (FunctionStart t) ks ∧ (∀ ls, IsSelection (FunctionStart t) ls → ls = ks) ∧
      functions t = ks.map (ofMatch .function t)) ∧
    (∃ ks, IsSelection (ArrowStart t) ks ∧ (∀ ls, IsSelection (ArrowStart t) ls → ls = ks) ∧
      arrows t = ks.map (ofMatch .arrow t)) ∧
    ∀ k l, FunctionStart t k → ArrowStart t l → k.start ≠ l.start := by
  refine ⟨fun k l => Signature.reads_function.starts_eq, fun k l => Signature.reads_arrow.starts_eq,
    scan_atPlace .function Signature.reads_function t,
    scan_atPlace .arrow Signature.reads_arrow t, ?_⟩
  rintro k l ⟨before, w, rest, ht, hks, -, -, hkf⟩ ⟨before', w', rest', ht', hls, -, -, hlf⟩ heq
  obtain ⟨-, htext⟩ := List.append_inj (ht.symm.trans ht') (by omega)
  have hf : Signature.function? (w ++ rest) = some (k.found, rest) :=
    Signature.reads_function.iff.2 ⟨w, hkf, rfl⟩
  have ha : Signature.arrow? (w ++ rest) = some (l.found, rest') :=
    Signature.reads_arrow.iff.2 ⟨w', hlf, htext⟩
  exact Signature.not_function?_and_arrow? hf ha

end Candidate

end BlazorBridge

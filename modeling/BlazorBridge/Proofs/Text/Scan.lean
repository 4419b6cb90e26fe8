import BlazorBridge.Text.Place

/-!
# Scanning selects the leftmost occurrences

A scan goes through a text once and leaves out what begins inside an occurrence that it has taken.
Main statements: what a scan finds is a selection of the occurrences that lie apart from each other
and leave out none but those that begin inside a selected one (`scan_isSelection`), and a text has
only one such selection (`IsSelection.unique`).

The selection is stated without the scan: `IsSelection` speaks of occurrences and their spans only.
-/

namespace BlazorBridge

/-- An occurrence of a form in a text: what is read there, and the span of it. -/
structure Match (α : Type) where
  start : Nat
  found : α
  stop : Nat

/-- Of the occurrences that `P` describes, `ms` are selected from left to right: they lie apart, and
one that is left out begins inside the span of a selected one. -/
structure IsSelection {α : Type} (P : Match α → Prop) (ms : List (Match α)) : Prop where
  sound : ∀ m ∈ ms, P m
  apart : ms.Pairwise fun a b => a.stop ≤ b.start
  covers : ∀ m, P m → m ∈ ms ∨ ∃ k ∈ ms, k.start < m.start ∧ m.start < k.stop

namespace IsSelection

variable {α : Type} {P : Match α → Prop} {m : Match α} {ms : List (Match α)}

theorem nil_iff : IsSelection P [] ↔ ∀ m, ¬ P m := by
  constructor
  · intro h m hm
    simpa using h.covers m hm
  · intro h
    exact ⟨by simp, List.Pairwise.nil, fun m hm => absurd hm (h m)⟩

theorem congr {Q : Match α → Prop} (hPQ : ∀ m, P m ↔ Q m) (h : IsSelection P ms) :
    IsSelection Q ms :=
  ⟨fun m hm => (hPQ m).1 (h.sound m hm), h.apart, fun m hm => h.covers m ((hPQ m).2 hm)⟩

/-- A selection begins with the first occurrence and goes on behind it. -/
theorem cons (hm : P m) (hfirst : ∀ k, P k → m.start ≤ k.start)
    (hfun : ∀ k, P k → k.start = m.start → k = m)
    (h : IsSelection (fun k => P k ∧ m.stop ≤ k.start) ms) : IsSelection P (m :: ms) := by
  refine ⟨?_, List.pairwise_cons.2 ⟨fun k hk => (h.sound k hk).2, h.apart⟩, ?_⟩
  · intro k hk
    rcases List.mem_cons.1 hk with rfl | hk
    · exact hm
    · exact (h.sound k hk).1
  · intro k hk
    by_cases hin : k.start < m.stop
    · rcases Nat.lt_or_eq_of_le (hfirst k hk) with hlt | heq
      · exact Or.inr ⟨m, List.mem_cons_self, hlt, hin⟩
      · rw [hfun k hk heq.symm]
        exact Or.inl List.mem_cons_self
    · rcases h.covers k ⟨hk, by omega⟩ with hk | ⟨l, hl, hlk⟩
      · exact Or.inl (List.mem_cons_of_mem _ hk)
      · exact Or.inr ⟨l, List.mem_cons_of_mem _ hl, hlk⟩

/-- The first occurrence selected begins at or before every occurrence. -/
theorem head_le (h : IsSelection P (m :: ms)) (hlt : ∀ m, P m → m.start < m.stop) {k : Match α}
    (hk : P k) : m.start ≤ k.start := by
  have hm := hlt m (h.sound m (by simp))
  have hle : ∀ k ∈ m :: ms, m.start ≤ k.start := by
    intro k hk
    rcases List.mem_cons.1 hk with rfl | hk
    · exact Nat.le_refl _
    · have := List.rel_of_pairwise_cons h.apart hk
      omega
  rcases h.covers k hk with hk | ⟨l, hl, hlk, -⟩
  · exact hle k hk
  · have := hle l hl
    omega

/-- Behind the first occurrence selected, the others are a selection of those that begin there. -/
theorem tail (h : IsSelection P (m :: ms)) (hlt : ∀ m, P m → m.start < m.stop) :
    IsSelection (fun k => P k ∧ m.stop ≤ k.start) ms := by
  have hm := hlt m (h.sound m (by simp))
  refine ⟨?_, h.apart.of_cons, ?_⟩
  · intro k hk
    exact ⟨h.sound k (by simp [hk]), List.rel_of_pairwise_cons h.apart hk⟩
  · rintro k ⟨hk, hle⟩
    rcases h.covers k hk with hk | ⟨l, hl, hlk, hkl⟩
    · rcases List.mem_cons.1 hk with rfl | hk
      · omega
      · exact Or.inl hk
    · rcases List.mem_cons.1 hl with rfl | hl
      · omega
      · exact Or.inr ⟨l, hl, hlk, hkl⟩

/-- Of two that are selected, the one that begins first ends before the other begins. -/
theorem stop_le_of_start_lt (h : IsSelection P ms) (hlt : ∀ m, P m → m.start < m.stop)
    {a b : Match α} (ha : a ∈ ms) (hb : b ∈ ms) (hab : a.start < b.start) : a.stop ≤ b.start := by
  have hapart := List.pairwise_iff_getElem.1 h.apart
  have hstop := hlt b (h.sound b hb)
  obtain ⟨i, hi, rfl⟩ := List.getElem_of_mem ha
  obtain ⟨j, hj, rfl⟩ := List.getElem_of_mem hb
  rcases Nat.lt_trichotomy i j with hij | rfl | hji
  · exact hapart i j hi hj hij
  · omega
  · have := hapart j i hj hi hji
    omega

/-- What is selected does not begin inside an occurrence that no other one hides: an occurrence is
hidden only by one that reaches into it, and `reaches` says that such a one reaches further. -/
theorem not_inside (h : IsSelection P ms) (hlt : ∀ m, P m → m.start < m.stop) (hm : m ∈ ms)
    {q : Match α} (hq : P q) (hstop : m.start < q.stop)
    (reaches : ∀ k, P k → k.start < q.start → q.start < k.stop → m.start < k.stop) :
    m.start ≤ q.start := by
  refine Nat.le_of_not_lt fun hstart => ?_
  rcases h.covers q hq with hmem | ⟨k, hk, hkq, hqk⟩
  · have := h.stop_le_of_start_lt hlt hmem hm (by omega)
    omega
  · have := h.stop_le_of_start_lt hlt hk hm (by omega)
    have := reaches k (h.sound k hk) hkq hqk
    omega

/-- Where one place has one occurrence at most, there is only one selection. -/
theorem unique {ns : List (Match α)} (hlt : ∀ m, P m → m.start < m.stop)
    (hfun : ∀ m n, P m → P n → m.start = n.start → m = n) (hm : IsSelection P ms)
    (hn : IsSelection P ns) : ms = ns := by
  induction ms generalizing P ns with
  | nil =>
    cases ns with
    | nil => rfl
    | cons n ns => exact absurd (hn.sound n (by simp)) (nil_iff.1 hm n)
  | cons m ms ih =>
    cases ns with
    | nil => exact absurd (hm.sound m (by simp)) (nil_iff.1 hn m)
    | cons n ns =>
      have hPm := hm.sound m (by simp)
      have hPn := hn.sound n (by simp)
      have heq : m = n := by
        refine hfun m n hPm hPn ?_
        have := hm.head_le hlt hPn
        have := hn.head_le hlt hPm
        omega
      subst heq
      rw [ih (fun k hk => hlt k hk.1) (fun k l hk hl => hfun k l hk.1 hl.1) (hm.tail hlt)
        (hn.tail hlt)]

/-- A selection is carried over to occurrences that tell more, when these have the same spans. -/
theorem exists_map {β : Type} {Q : Match β → Prop} {f : Match β → Match α}
    (hstart : ∀ k, (f k).start = k.start) (hstop : ∀ k, (f k).stop = k.stop)
    (hPQ : ∀ m, P m ↔ ∃ k, Q k ∧ f k = m)
    (hfun : ∀ k l, Q k → Q l → k.start = l.start → k = l) (h : IsSelection P ms) :
    ∃ ks, ms = ks.map f ∧ IsSelection Q ks := by
  have hchoose : ∀ ms : List (Match α), (∀ m ∈ ms, P m) →
      ∃ ks : List (Match β), ms = ks.map f ∧ ∀ k ∈ ks, Q k := by
    intro ms hms
    induction ms with
    | nil => exact ⟨[], rfl, by simp⟩
    | cons m ms ih =>
      obtain ⟨k, hk, rfl⟩ := (hPQ m).1 (hms m (by simp))
      obtain ⟨ks, rfl, hks⟩ := ih fun l hl => hms l (by simp [hl])
      refine ⟨k :: ks, rfl, ?_⟩
      intro l hl
      rcases List.mem_cons.1 hl with rfl | hl
      · exact hk
      · exact hks l hl
  obtain ⟨ks, rfl, hks⟩ := hchoose ms h.sound
  refine ⟨ks, rfl, hks, ?_, ?_⟩
  · have hapart := List.pairwise_map.1 h.apart
    simpa only [hstart, hstop] using hapart
  · intro k hk
    rcases h.covers (f k) ((hPQ _).2 ⟨k, hk, rfl⟩) with hmem | ⟨m, hm, hlt⟩
    · obtain ⟨l, hl, hlk⟩ := List.mem_map.1 hmem
      have heq : l = k := hfun l k (hks l hl) hk (by rw [← hstart l, hlk, hstart])
      exact Or.inl (heq ▸ hl)
    · obtain ⟨l, hl, rfl⟩ := List.mem_map.1 hm
      rw [hstart, hstart, hstop] at hlt
      exact Or.inr ⟨l, hl, hlt⟩

end IsSelection

namespace Place

variable {α : Type} {read : Place → Option (α × Nat)}

/-- The place of a text behind its first `n` characters. -/
def ofOffset (t : Text) (n : Nat) : Place := ⟨(t.take n).reverse, t.drop n⟩

/-- The place between two parts of a text. -/
theorem ofOffset_append (a b : Text) : ofOffset (a ++ b) a.length = ⟨a.reverse, b⟩ := by
  simp [ofOffset]

/-- What a form reads is never empty and never reaches past the end of the text. -/
def Proper (read : Place → Option (α × Nat)) : Prop :=
  ∀ p a n, read p = some (a, n) → 0 < n ∧ n ≤ p.after.length

/-- The occurrences of a form in a text. -/
def MatchIn (read : Place → Option (α × Nat)) (t : Text) (m : Match α) : Prop :=
  ∃ n, m.stop = m.start + n ∧ read (ofOffset t m.start) = some (m.found, n)

theorem MatchIn.lt (h : Proper read) {t : Text} {m : Match α} (hm : MatchIn read t m) :
    m.start < m.stop := by
  obtain ⟨n, hn, hr⟩ := hm
  have := h _ _ _ hr
  omega

theorem MatchIn.stop_le (h : Proper read) {t : Text} {m : Match α} (hm : MatchIn read t m) :
    m.stop ≤ t.length := by
  obtain ⟨n, hn, hr⟩ := hm
  have := h _ _ _ hr
  simp only [ofOffset, List.length_drop] at this
  omega

/-- One place has one occurrence at most. -/
theorem MatchIn.eq {t : Text} {m k : Match α} (hm : MatchIn read t m) (hk : MatchIn read t k)
    (h : m.start = k.start) : m = k := by
  obtain ⟨n, hn, hr⟩ := hm
  obtain ⟨l, hl, hs⟩ := hk
  rw [h, hs, Option.some.injEq, Prod.mk.injEq] at hr
  cases m
  cases k
  simp_all

/-- The run of a scan. What is still to come is a selection of the occurrences that begin at or
behind the next place that is not passed over. -/
theorem scanFrom_isSelection (h : Proper read) (skip : Nat) (before rest : Text) :
    ∃ ms, scanFrom read skip before rest = ms.map Match.found ∧
      IsSelection (fun m => MatchIn read (before.reverse ++ rest) m ∧ before.length + skip ≤ m.start)
        ms := by
  induction rest generalizing skip before with
  | nil =>
    refine ⟨[], by cases skip <;> rfl, IsSelection.nil_iff.2 ?_⟩
    rintro m ⟨hm, hle⟩
    have := hm.lt h
    have := hm.stop_le h
    simp only [List.append_nil, List.length_reverse] at this
    omega
  | cons c rest ih =>
    have ht : (c :: before).reverse ++ rest = before.reverse ++ c :: rest := by simp
    cases skip with
    | succ skip =>
      obtain ⟨ms, hs, hsel⟩ := ih skip (c :: before)
      rw [ht, List.length_cons, Nat.add_assoc, Nat.add_comm 1 skip] at hsel
      exact ⟨ms, hs, hsel⟩
    | zero =>
      have hat : ofOffset (before.reverse ++ c :: rest) before.length = ⟨before, c :: rest⟩ := by
        simpa using ofOffset_append before.reverse (c :: rest)
      rw [scanFrom]
      split
      · -- Nothing begins here, so the occurrences begin one character further on.
        rename_i hr
        obtain ⟨ms, hs, hsel⟩ := ih 0 (c :: before)
        rw [ht, List.length_cons] at hsel
        refine ⟨ms, hs, hsel.congr fun m => and_congr_right fun hm => ?_⟩
        have hne : m.start ≠ before.length := by
          intro heq
          obtain ⟨n, -, hm⟩ := hm
          rw [heq, hat, hr] at hm
          simp at hm
        omega
      · -- The occurrence that begins here hides those that begin inside it.
        rename_i found taken hr
        have hpos := (h _ _ _ hr).1
        obtain ⟨ms, hs, hsel⟩ := ih (taken - 1) (c :: before)
        rw [ht, List.length_cons] at hsel
        let first : Match α := ⟨before.length, found, before.length + taken⟩
        have hfirst : MatchIn read (before.reverse ++ c :: rest) first :=
          ⟨taken, rfl, by rw [hat, hr]⟩
        refine ⟨first :: ms, by rw [hs]; rfl, IsSelection.cons ⟨hfirst, Nat.le_refl _⟩
          (fun k hk => hk.2) (fun k hk heq => hk.1.eq hfirst heq) (hsel.congr fun m => ?_)⟩
        rw [and_assoc]
        refine and_congr_right fun hm => ?_
        show before.length + 1 + (taken - 1) ≤ m.start ↔
          before.length + 0 ≤ m.start ∧ before.length + taken ≤ m.start
        omega

/-! ## Scanning part by part -/

/-- Characters that are to be passed over are. -/
theorem scanFrom_length_append (before seg rest : Text) :
    scanFrom read seg.length before (seg ++ rest) = scanFrom read 0 (seg.reverse ++ before) rest := by
  induction seg generalizing before with
  | nil => rfl
  | cons c seg ih =>
    rw [List.cons_append, List.length_cons, scanFrom, ih, List.reverse_cons, List.append_assoc]
    rfl

/-- A part in which nothing begins adds nothing. -/
theorem scanFrom_append_of_none {before seg rest : Text}
    (h : ∀ a b, seg = a ++ b → b ≠ [] → read ⟨a.reverse ++ before, b ++ rest⟩ = none) :
    scanFrom read 0 before (seg ++ rest) = scanFrom read 0 (seg.reverse ++ before) rest := by
  induction seg generalizing before with
  | nil => rfl
  | cons c seg ih =>
    have hfirst : read ⟨before, c :: (seg ++ rest)⟩ = none := h [] (c :: seg) rfl (by simp)
    rw [List.cons_append, scanFrom, hfirst]
    dsimp only
    rw [ih, List.reverse_cons, List.append_assoc]
    · rfl
    · intro a b hab hb
      simpa using h (c :: a) b (by rw [hab, List.cons_append]) hb

/-- A part that is read adds what is read there. -/
theorem scanFrom_append_of_some {before w rest : Text} {a : α} (hw : w ≠ [])
    (h : read ⟨before, w ++ rest⟩ = some (a, w.length)) :
    scanFrom read 0 before (w ++ rest) = a :: scanFrom read 0 (w.reverse ++ before) rest := by
  cases w with
  | nil => exact absurd rfl hw
  | cons c w =>
    rw [List.cons_append] at h ⊢
    rw [scanFrom, h]
    dsimp only
    rw [List.length_cons, Nat.add_sub_cancel, scanFrom_length_append, List.reverse_cons,
      List.append_assoc]
    rfl

/-- What a scan finds is the selection of the occurrences of its form. -/
theorem scan_isSelection (h : Proper read) (t : Text) :
    ∃ ms, scan read t = ms.map Match.found ∧ IsSelection (MatchIn read t) ms := by
  obtain ⟨ms, hs, hsel⟩ := scanFrom_isSelection h 0 [] t
  simp only [List.reverse_nil, List.nil_append, List.length_nil, Nat.zero_add, Nat.zero_le,
    and_true] at hsel
  exact ⟨ms, hs, hsel⟩

/-- A scan finds nothing exactly where nothing occurs. -/
theorem scan_eq_nil_iff (h : Proper read) {t : Text} :
    scan read t = [] ↔ ∀ m, ¬ MatchIn read t m := by
  obtain ⟨ms, hs, hsel⟩ := scan_isSelection h t
  rw [hs, List.map_eq_nil_iff]
  constructor
  · rintro rfl
    exact IsSelection.nil_iff.1 hsel
  · intro hnone
    cases ms with
    | nil => rfl
    | cons m ms => exact absurd (hsel.sound m (by simp)) (hnone m)

/-- What a scan finds first is the leftmost occurrence. -/
theorem head?_scan_eq_some_iff (h : Proper read) {t : Text} {a : α} :
    (scan read t).head? = some a ↔
      ∃ m, MatchIn read t m ∧ m.found = a ∧ ∀ k, MatchIn read t k → m.start ≤ k.start := by
  obtain ⟨ms, hs, hsel⟩ := scan_isSelection h t
  rw [hs]
  cases ms with
  | nil =>
    simp only [List.map_nil, List.head?_nil, reduceCtorEq, false_iff, not_exists, not_and]
    intro m hm
    exact absurd hm (IsSelection.nil_iff.1 hsel m)
  | cons m ms =>
    have hm := hsel.sound m (by simp)
    have hfirst : ∀ k, MatchIn read t k → m.start ≤ k.start :=
      fun k hk => hsel.head_le (fun _ hl => hl.lt h) hk
    simp only [List.map_cons, List.head?_cons, Option.some.injEq]
    constructor
    · intro ha
      exact ⟨m, hm, ha, hfirst⟩
    · rintro ⟨k, hk, rfl, hleast⟩
      have := hfirst k hk
      have := hleast m hm
      rw [hm.eq hk (by omega)]

end Place

end BlazorBridge

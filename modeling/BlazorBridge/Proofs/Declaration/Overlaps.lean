import BlazorBridge.Proofs.Declaration.Starts

/-!
# Overlapping candidates

Only the end of the last candidate kept is remembered when overlaps are dropped. In a list that is
ordered by offset that is enough: what is kept lies behind everything kept before it
(`pairwise_keepFrom`), and what is dropped begins inside something kept before it
(`keepFrom_indices`). Main statement (`dropOverlaps_disjoint_and_lossless`): the candidates of a text
have disjoint spans, and every declaration of either shape is one of them or begins inside one.
-/

namespace BlazorBridge.Candidate

/-! ## One list -/

theorem keepFrom_sublist (limit : Int) (cs : List Candidate) : (keepFrom limit cs).Sublist cs := by
  induction cs generalizing limit with
  | nil => exact List.Sublist.refl _
  | cons c cs ih =>
    rw [keepFrom]
    split
    · exact (ih limit).cons c
    · exact (ih c.stop).cons_cons c

/-- In an ordered list nothing that is kept begins before the limit. -/
theorem le_start_of_mem_keepFrom {limit : Int} {cs : List Candidate}
    (h : cs.Pairwise fun a b => a.start ≤ b.start) {d : Candidate} (hd : d ∈ keepFrom limit cs) :
    limit ≤ d.start := by
  induction cs generalizing limit with
  | nil => simp [keepFrom] at hd
  | cons c cs ih =>
    rw [keepFrom] at hd
    split at hd
    · exact ih h.of_cons hd
    · rcases List.mem_cons.1 hd with rfl | hd
      · omega
      · -- The limit has moved to the end of `c`, which may lie before its start.
        have := List.rel_of_pairwise_cons h ((keepFrom_sublist _ _).subset hd)
        omega

/-- In an ordered list all that is kept lies apart. -/
theorem pairwise_keepFrom (limit : Int) {cs : List Candidate}
    (h : cs.Pairwise fun a b => a.start ≤ b.start) :
    (keepFrom limit cs).Pairwise fun a b => a.stop ≤ b.start := by
  induction cs generalizing limit with
  | nil => exact List.Pairwise.nil
  | cons c cs ih =>
    rw [keepFrom]
    split
    · exact ih limit h.of_cons
    · exact List.pairwise_cons.2
        ⟨fun d hd => le_start_of_mem_keepFrom h.of_cons hd, ih c.stop h.of_cons⟩

/-- What is kept, by position. A candidate is dropped because it begins before the limit or before
the end of one that is kept and stands before it. -/
theorem keepFrom_indices (limit : Int) (cs : List Candidate) :
    ∃ kept : List (Fin cs.length), kept.Pairwise (· < ·) ∧ keepFrom limit cs = kept.map cs.get ∧
      ∀ j, j ∉ kept → (cs.get j).start < limit ∨
        ∃ i ∈ kept, i < j ∧ (cs.get j).start < (cs.get i).stop := by
  induction cs generalizing limit with
  | nil => exact ⟨[], List.Pairwise.nil, rfl, fun j => j.elim0⟩
  | cons c cs ih =>
    have hpairwise : ∀ kept : List (Fin cs.length), kept.Pairwise (· < ·) →
        (kept.map Fin.succ).Pairwise (· < ·) := by
      intro kept hkept
      rw [List.pairwise_map]
      exact hkept.imp fun hij => Fin.succ_lt_succ_iff.2 hij
    rw [keepFrom]
    split
    · rename_i hc
      obtain ⟨kept, hkept, heq, hdropped⟩ := ih limit
      refine ⟨kept.map Fin.succ, hpairwise kept hkept, by rw [heq, List.map_map]; rfl, ?_⟩
      intro j hj
      cases j using Fin.cases with
      | zero => exact Or.inl hc
      | succ j =>
        rcases hdropped j fun h => hj (List.mem_map_of_mem h) with hlt | ⟨i, hi, hij, hlt⟩
        · exact Or.inl hlt
        · exact Or.inr ⟨i.succ, List.mem_map_of_mem hi, Fin.succ_lt_succ_iff.2 hij, hlt⟩
    · obtain ⟨kept, hkept, heq, hdropped⟩ := ih c.stop
      refine ⟨0 :: kept.map Fin.succ, List.pairwise_cons.2 ⟨?_, hpairwise kept hkept⟩,
        by rw [heq, List.map_cons, List.map_map]; rfl, ?_⟩
      · intro i hi
        obtain ⟨k, -, rfl⟩ := List.mem_map.1 hi
        exact Fin.succ_pos k
      · intro j hj
        cases j using Fin.cases with
        | zero => exact absurd List.mem_cons_self hj
        | succ j =>
          have hj' : j ∉ kept := fun h => hj (List.mem_cons_of_mem _ (List.mem_map_of_mem h))
          rcases hdropped j hj' with hlt | ⟨i, hi, hij, hlt⟩
          · exact Or.inr ⟨0, List.mem_cons_self, Fin.succ_pos j, hlt⟩
          · exact Or.inr ⟨i.succ, List.mem_cons_of_mem _ (List.mem_map_of_mem hi),
              Fin.succ_lt_succ_iff.2 hij, hlt⟩

/-- What is kept once is kept again, whatever the order. -/
theorem keepFrom_keepFrom (limit : Int) (cs : List Candidate) :
    keepFrom limit (keepFrom limit cs) = keepFrom limit cs := by
  induction cs generalizing limit with
  | nil => rfl
  | cons c cs ih =>
    rw [keepFrom]
    split
    · exact ih limit
    · rename_i hc
      rw [keepFrom, if_neg hc, ih c.stop]

/-- Candidates that lie apart, the first of them behind the limit, are all kept. -/
theorem keepFrom_eq_self {limit : Int} {cs : List Candidate}
    (hapart : cs.Pairwise fun a b => a.stop ≤ b.start) (hlimit : ∀ c ∈ cs, limit ≤ c.start) :
    keepFrom limit cs = cs := by
  induction cs generalizing limit with
  | nil => rfl
  | cons c cs ih =>
    have hc := hlimit c (by simp)
    rw [keepFrom, if_neg (by omega),
      ih hapart.of_cons fun d hd => List.rel_of_pairwise_cons hapart hd]

/-! ## The candidates of a text -/

/-- The declarations of one shape lie apart, inside the text, and none is empty. -/
theorem scan_atPlace_spans (shape : Shape) {read : Text → Option (Signature × Text)}
    {form : Signature → Text → Text → Prop} (h : Signature.Reads read form) (t : Text) :
    (Place.scan (atPlace shape read) t).Pairwise (fun a b => a.stop ≤ b.start) ∧
      ∀ c ∈ Place.scan (atPlace shape read) t,
        0 ≤ c.start ∧ c.start < c.stop ∧ c.stop ≤ t.length := by
  obtain ⟨ks, hks, -, heq⟩ := scan_atPlace shape h t
  rw [heq]
  constructor
  · rw [List.pairwise_map]
    refine hks.apart.imp fun hab => ?_
    simp only [ofMatch]
    omega
  · intro c hc
    obtain ⟨k, hk, rfl⟩ := List.mem_map.1 hc
    have hspan := h.start_lt_stop k (hks.sound k hk)
    obtain ⟨before, w, rest, rfl, hs, he, -⟩ := hks.sound k hk
    simp only [ofMatch, List.length_append]
    omega

theorem pairwise_merge_start {fs as : List Candidate}
    (hf : fs.Pairwise fun a b => a.start ≤ b.start) (ha : as.Pairwise fun a b => a.start ≤ b.start) :
    (fs.merge as fun a b => decide (a.start ≤ b.start)).Pairwise fun a b => a.start ≤ b.start := by
  have h : (fs.merge as fun a b => decide (a.start ≤ b.start)).Pairwise
      fun a b => decide (a.start ≤ b.start) = true := by
    apply List.pairwise_merge
    · intro a b c
      simp only [decide_eq_true_eq]
      omega
    · intro a b
      simp only [Bool.or_eq_true, decide_eq_true_eq]
      omega
    · exact hf.imp fun h => decide_eq_true h
    · exact ha.imp fun h => decide_eq_true h
  exact h.imp fun h => of_decide_eq_true h

/-- The candidates of both shapes together are ordered and begin inside the text. -/
theorem merge_spans (t : Text) :
    ((functions t).merge (arrows t) fun a b => decide (a.start ≤ b.start)).Pairwise
        (fun a b => a.start ≤ b.start) ∧
      ∀ c, c ∈ functions t ∨ c ∈ arrows t → 0 ≤ c.start ∧ c.start < c.stop ∧ c.stop ≤ t.length := by
  obtain ⟨hf, hf'⟩ := scan_atPlace_spans .function Signature.reads_function t
  obtain ⟨ha, ha'⟩ := scan_atPlace_spans .arrow Signature.reads_arrow t
  constructor
  · apply pairwise_merge_start
    · refine hf.imp_of_mem fun hac hbc hab => ?_
      have := hf' _ hac
      omega
    · refine ha.imp_of_mem fun hac hbc hab => ?_
      have := ha' _ hac
      omega
  · rintro c (hc | hc)
    · exact hf' c hc
    · exact ha' c hc

/-- A candidate of a text is that of a start which the scan for its shape selects. -/
theorem exists_selected_of_mem_ofText {t : Text} {c : Candidate} (h : c ∈ ofText t) :
    (∃ ks, IsSelection (Signature.FunctionStart t) ks ∧ ∃ m ∈ ks, c = ofMatch .function t m) ∨
      ∃ ks, IsSelection (Signature.ArrowStart t) ks ∧ ∃ m ∈ ks, c = ofMatch .arrow t m := by
  rcases List.mem_merge.1 ((keepFrom_sublist _ _).subset h) with hc | hc
  · obtain ⟨ks, hks, -, heq⟩ := scan_atPlace .function Signature.reads_function t
    rw [functions, heq] at hc
    obtain ⟨m, hm, rfl⟩ := List.mem_map.1 hc
    exact Or.inl ⟨ks, hks, m, hm, rfl⟩
  · obtain ⟨ks, hks, -, heq⟩ := scan_atPlace .arrow Signature.reads_arrow t
    rw [arrows, heq] at hc
    obtain ⟨m, hm, rfl⟩ := List.mem_map.1 hc
    exact Or.inr ⟨ks, hks, m, hm, rfl⟩

/-- In a text without arrows every function is a candidate. -/
theorem ofText_eq_functions {t : Text} (h : arrows t = []) : ofText t = functions t := by
  obtain ⟨hapart, hspans⟩ := scan_atPlace_spans .function Signature.reads_function t
  rw [ofText, h, List.merge_right, dropOverlaps]
  refine keepFrom_eq_self hapart fun c hc => ?_
  have := hspans c hc
  omega

/-- The candidates of a text begin at strictly increasing offsets. -/
theorem pairwise_start_ofText (t : Text) : (ofText t).Pairwise fun a b => a.start < b.start := by
  obtain ⟨hordered, hspan⟩ := merge_spans t
  refine (pairwise_keepFrom (-1) hordered).imp_of_mem fun ha _ hab => ?_
  have := hspan _ (List.mem_merge.1 ((keepFrom_sublist _ _).subset ha))
  omega

/-- What is dropped from an ordered list begins inside the span of something that is kept and stands
before it. -/
theorem dropOverlaps_indices {cs : List Candidate} (h : cs.Pairwise fun a b => a.start ≤ b.start)
    (hstart : ∀ c ∈ cs, 0 ≤ c.start) :
    ∃ kept : List (Fin cs.length), kept.Pairwise (· < ·) ∧ dropOverlaps cs = kept.map cs.get ∧
      ∀ j, j ∉ kept → ∃ i ∈ kept, i < j ∧ (cs.get i).start ≤ (cs.get j).start ∧
        (cs.get j).start < (cs.get i).stop := by
  obtain ⟨kept, hkept, heq, hdropped⟩ := keepFrom_indices (-1) cs
  refine ⟨kept, hkept, heq, ?_⟩
  intro j hj
  rcases hdropped j hj with hlt | ⟨i, hi, hij, hlt⟩
  · have := hstart (cs.get j) (List.get_mem cs j)
    omega
  · exact ⟨i, hi, hij, List.pairwise_iff_getElem.1 h i j i.isLt j.isLt hij, hlt⟩

/-- Nothing of an ordered list is lost but what begins inside something that is kept. -/
theorem mem_dropOverlaps_or_inside {cs : List Candidate}
    (h : cs.Pairwise fun a b => a.start ≤ b.start) (hstart : ∀ c ∈ cs, 0 ≤ c.start) {c : Candidate}
    (hc : c ∈ cs) :
    c ∈ dropOverlaps cs ∨ ∃ k ∈ dropOverlaps cs, k.start ≤ c.start ∧ c.start < k.stop := by
  obtain ⟨kept, -, heq, hdropped⟩ := dropOverlaps_indices h hstart
  obtain ⟨j, rfl⟩ := List.mem_iff_get.1 hc
  rw [heq]
  by_cases hj : j ∈ kept
  · exact Or.inl (List.mem_map_of_mem hj)
  · obtain ⟨i, hi, -, hle, hlt⟩ := hdropped j hj
    exact Or.inr ⟨_, List.mem_map_of_mem hi, hle, hlt⟩

/-- **No declaration is reported twice, and none is lost.** Of an ordered list, what is kept lies
apart, and each candidate that is dropped begins inside one that is kept before it; dropping overlaps
a second time changes nothing. The candidates of a text therefore have disjoint spans in increasing
order, and every declaration of either shape is one of them or begins inside one of them. -/
theorem dropOverlaps_disjoint_and_lossless :
    (∀ cs : List Candidate, cs.Pairwise (fun a b => a.start ≤ b.start) →
      (∀ c ∈ cs, 0 ≤ c.start) →
      (dropOverlaps cs).Pairwise (fun a b => a.stop ≤ b.start) ∧
      ∃ kept : List (Fin cs.length), kept.Pairwise (· < ·) ∧ dropOverlaps cs = kept.map cs.get ∧
        ∀ j, j ∉ kept → ∃ i ∈ kept, i < j ∧ (cs.get i).start ≤ (cs.get j).start ∧
          (cs.get j).start < (cs.get i).stop) ∧
    (∀ cs, dropOverlaps (dropOverlaps cs) = dropOverlaps cs) ∧
    ∀ t, (ofText t).Pairwise (fun a b => a.start < b.start ∧ a.stop ≤ b.start) ∧
      (∀ c ∈ ofText t, 0 ≤ c.start ∧ c.start < c.stop ∧ c.stop ≤ t.length) ∧
      ∀ c, c ∈ functions t ∨ c ∈ arrows t →
        c ∈ ofText t ∨ ∃ k ∈ ofText t, k.start ≤ c.start ∧ c.start < k.stop := by
  refine ⟨?_, keepFrom_keepFrom (-1), ?_⟩
  · intro cs h hstart
    exact ⟨pairwise_keepFrom (-1) h, dropOverlaps_indices h hstart⟩
  · intro t
    obtain ⟨hordered, hspan⟩ := merge_spans t
    have hmem : ∀ c ∈ (functions t).merge (arrows t) fun a b => decide (a.start ≤ b.start),
        0 ≤ c.start ∧ c.start < c.stop ∧ c.stop ≤ t.length :=
      fun c hc => hspan c (List.mem_merge.1 hc)
    have hkept : ∀ c ∈ ofText t, 0 ≤ c.start ∧ c.start < c.stop ∧ c.stop ≤ t.length :=
      fun c hc => hmem c ((keepFrom_sublist _ _).subset hc)
    refine ⟨?_, hkept, ?_⟩
    · refine (pairwise_keepFrom (-1) hordered).imp_of_mem fun ha hb hab => ⟨?_, hab⟩
      have := hkept _ ha
      omega
    · intro c hc
      exact mem_dropOverlaps_or_inside hordered (fun c hc => (hmem c hc).1) (List.mem_merge.2 hc)

/-- Three candidates, of which the second begins inside the first and the third ends before it
begins. -/
def spanned : List Candidate :=
  [⟨"f".toList, [], [], 0, 10, false, .function⟩, ⟨"g".toList, [], [], 3, 20, true, .arrow⟩,
    ⟨"h".toList, [], [], 10, 4, false, .function⟩]

theorem dropOverlaps_spanned :
    spanned.Pairwise (fun a b => a.start ≤ b.start) ∧ (∀ c ∈ spanned, 0 ≤ c.start) ∧
      (dropOverlaps spanned).Pairwise (fun a b => a.stop ≤ b.start) ∧
      (dropOverlaps spanned).length = 2 := by
  have hordered : spanned.Pairwise fun a b => a.start ≤ b.start := by decide
  have hstart : ∀ c ∈ spanned, 0 ≤ c.start := by decide
  exact ⟨hordered, hstart, (dropOverlaps_disjoint_and_lossless.1 spanned hordered hstart).1, rfl⟩

end BlazorBridge.Candidate

import BlazorBridge.Proofs.FileTree.WellFormed
import BlazorBridge.Proofs.Path.Spelling

/-!
# Looking up paths

A path that is looked up leads where its parts point (`follow_of_locate`), but only if every part behind
the first is looked up in a directory that is there. So a path is looked up in its directory
(`directory_of_locate`), and there it is refused only as too long (`locate_of_directory`). In a
well-formed tree a path with a null character leads to nothing (`WellFormed.hasNull_of_locate`).
-/

namespace BlazorBridge.FileTree

variable {t : FileTree} {p : Path} {l k d : Location} {part : Text} {parts : List Text}

/-! ## Where a path leads -/

theorem walk_append (t : FileTree) (l : Location) (xs ys : List Text) :
    t.walk l (xs ++ ys) = (t.walk l xs).bind fun d => t.walk d ys := by
  induction xs generalizing l with
  | nil => rfl
  | cons x xs ih =>
    rw [List.cons_append, walk, walk]
    split
    · split
      · rfl
      · exact ih _
    · rfl
    · rfl

/-- A walk that succeeds leads where the parts point. -/
theorem foldl_step_of_walk (h : t.walk l parts = .ok k) : parts.foldl Location.step l = k := by
  induction parts generalizing l with
  | nil => exact Except.ok.inj h
  | cons part parts ih =>
    rw [walk] at h
    split at h
    · split at h
      · simp at h
      · exact ih h
    · simp at h
    · simp at h

/-- A place that something stands at is walked to from a place that something stands at. -/
theorem isSome_of_walk (h : t.walk l parts = .ok k) (hk : (t.node? k).isSome) :
    (t.node? l).isSome := by
  cases parts with
  | nil =>
    obtain rfl := Except.ok.inj h
    exact hk
  | cons part parts =>
    rw [walk] at h
    split at h
    · rename_i hdirectory
      rw [hdirectory]
      rfl
    · simp at h
    · simp at h

theorem locate_eq (t : FileTree) (p : Path) :
    t.locate p =
      if isBeyondReach p then .error .nameTooLong
      else t.walk (Location.follow t.here ⟨p.anchor, []⟩) p.parts := by
  obtain ⟨anchor, parts⟩ := p
  cases anchor <;> rfl

/-- A path that is looked up leads where its parts point. -/
theorem follow_of_locate (h : t.locate p = .ok l) : Location.follow t.here p = l := by
  rw [locate_eq] at h
  split at h
  · simp at h
  · exact foldl_step_of_walk h

/-! ## Null characters -/

theorem WellFormed.noNull_of_step (h : t.WellFormed) (hl : (t.node? (Location.step l part)).isSome) :
    Char.ofNat 0 ∉ part := by
  unfold Location.step at hl
  split at hl
  · rename_i hparent
    rw [hparent]
    decide
  · split at hl
    · rename_i hself
      rw [hself]
      decide
    · exact (h.isResolved hl part (by simp)).noNull

theorem WellFormed.noNull_of_walk (h : t.WellFormed) (hwalk : t.walk l parts = .ok k)
    (hk : (t.node? k).isSome) : ∀ part ∈ parts, Char.ofNat 0 ∉ part := by
  induction parts generalizing l with
  | nil => simp
  | cons part parts ih =>
    rw [walk] at hwalk
    split at hwalk
    · split at hwalk
      · simp at hwalk
      · intro part' hpart'
        rcases List.mem_cons.1 hpart' with rfl | hpart'
        · exact h.noNull_of_step (isSome_of_walk hwalk hk)
        · exact ih hwalk part' hpart'
    · simp at hwalk
    · simp at hwalk

/-- A path that leads to something holds no null character. -/
theorem WellFormed.hasNull_of_locate (h : t.WellFormed) (hlocate : t.locate p = .ok l)
    (hl : (t.node? l).isSome) : p.hasNull = false := by
  rw [locate_eq] at hlocate
  split at hlocate
  · simp at hlocate
  · rw [Path.hasNull, List.any_eq_false]
    intro part hpart
    simpa using h.noNull_of_walk hlocate hl part hpart

/-! ## The directory of a path -/

/-- A path that is not too long has a directory whose path is not too long. -/
theorem isBeyondReach_parent (h : isBeyondReach p = false) : isBeyondReach p.parent = false := by
  obtain ⟨anchor, parts⟩ := p
  rcases List.eq_nil_or_concat parts with rfl | ⟨front, last, rfl⟩
  · exact h
  · rw [List.concat_eq_append] at h
    rw [Path.parent, List.concat_eq_append, List.dropLast_concat]
    have hlength := Path.length_toText_parent anchor front last
    unfold isBeyondReach longestPath at h ⊢
    simp only [decide_eq_false_iff_not, not_lt] at h ⊢
    omega

/-- A path that is not too long is looked up from its directory. -/
theorem locate_eq_parent (hparts : p.parts ≠ []) (h : isBeyondReach p = false) :
    t.locate p = (t.locate p.parent).bind fun d => t.walk d [p.name] := by
  rw [locate_eq, locate_eq, h, isBeyondReach_parent h, if_neg (by simp), if_neg (by simp)]
  conv_lhs => rw [← Path.parent_join_name hparts]
  exact walk_append _ _ _ _

/-- A path is looked up in its directory alone. -/
theorem directory_of_locate (hparts : p.parts ≠ []) (h : t.locate p = .ok l) :
    ∃ d, t.locate p.parent = .ok d ∧ t.node? d = some .directory := by
  cases hbeyond : isBeyondReach p with
  | true =>
    rw [locate_eq, hbeyond] at h
    simp at h
  | false =>
    rw [locate_eq_parent hparts hbeyond] at h
    cases hparent : t.locate p.parent with
    | error cause => simp [hparent, Except.bind] at h
    | ok d =>
      simp only [hparent, Except.bind, walk] at h
      split at h
      · exact ⟨d, rfl, ‹_›⟩
      · simp at h
      · simp at h

/-- In a directory that is there, a path is looked up unless it is too long. -/
theorem locate_of_directory (hparts : p.parts ≠ []) (hparent : t.locate p.parent = .ok d)
    (hd : t.node? d = some .directory) :
    t.locate p =
      if isOverlong p.name || isBeyondReach p then .error .nameTooLong
      else .ok (Location.step d p.name) := by
  cases hbeyond : isBeyondReach p with
  | true => rw [locate_eq, hbeyond, Bool.or_true, if_pos rfl, if_pos rfl]
  | false =>
    rw [locate_eq_parent hparts hbeyond, hparent, Bool.or_false]
    simp only [Except.bind, walk, hd]

end BlazorBridge.FileTree

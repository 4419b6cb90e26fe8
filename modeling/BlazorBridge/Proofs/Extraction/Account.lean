import BlazorBridge.Event
import BlazorBridge.Proofs.Declaration.Overlaps
import BlazorBridge.Proofs.Documentation.Gate

/-!
# The account of an extraction

An extraction deals the candidates of a text out into two lists, functions and rejections, and writes
one record for each. `Account` says what it is to deal them out without loss: going through the
candidates in order, each takes the next function or the next rejection, and the next record.

Main statement (`candidates_accounted`): the lists of an extraction are such an account of the
candidates of the text, and the rejections are in strictly increasing order of their offsets.
-/

namespace BlazorBridge.Extraction

/-! ## One candidate -/

/-- A candidate is accepted as a function, and the record of it is a note for debugging. -/
structure Accepts (t : Text) (c : Candidate) (f : JsFunction) (e : Event) : Prop where
  outcome : build t c = .ok f
  name : f.name = c.name
  async : f.isAsync = c.isAsync
  level : e.level = .debug
  reporter : e.reporter = .extraction

/-- A candidate is rejected, and the record of it is an error that names the function, the source and
the reason. -/
structure Rejects (t source : Text) (c : Candidate) (r : Rejection) (e : Event) : Prop where
  outcome : build t c = .error r
  name : r.name = c.name
  start : r.start = c.start
  level : e.level = .error
  reporter : e.reporter = .extraction
  message : e.message =
    "Function '".toList ++ c.name ++ "' in ".toList ++ source ++ " rejected: ".toList ++
      r.cause.message

/-- A rejection is about the candidate it comes from. -/
theorem buildBelow_eq_error {above : List Text} {c : Candidate} {r : Rejection}
    (h : buildBelow above c = .error r) : r.name = c.name ∧ r.start = c.start := by
  unfold buildBelow at h
  dsimp only at h
  split at h
  · split at h
    · simp at h
    · obtain rfl := Except.error.inj h
      exact ⟨rfl, rfl⟩
  · obtain rfl := Except.error.inj h
    exact ⟨rfl, rfl⟩

theorem accepts_of_build {t : Text} {c : Candidate} {f : JsFunction} (h : build t c = .ok f) :
    Accepts t c f (.accepted c.shape f) := by
  obtain ⟨-, -, hf⟩ := buildBelow_eq_ok_iff.1 h
  exact ⟨h, by rw [hf], by rw [hf], rfl, rfl⟩

theorem rejects_of_build {t : Text} (source : Text) {c : Candidate} {r : Rejection}
    (h : build t c = .error r) : Rejects t source c r (.rejected source r) := by
  obtain ⟨hname, hstart⟩ := buildBelow_eq_error h
  exact ⟨h, hname, hstart, rfl, rfl, by rw [← hname]; rfl⟩

/-! ## All candidates -/

/-- The candidates are dealt out in order: each takes the next function or the next rejection, never
both, and the next record. Nothing is left over. -/
inductive Account (t source : Text) :
    List Candidate → List JsFunction → List Rejection → List Event → Prop where
  | done : Account t source [] [] [] []
  | function {c : Candidate} {f : JsFunction} {e : Event} {cs : List Candidate}
      {fs : List JsFunction} {rs : List Rejection} {es : List Event} :
      Accepts t c f e → Account t source cs fs rs es →
      Account t source (c :: cs) (f :: fs) rs (e :: es)
  | rejection {c : Candidate} {r : Rejection} {e : Event} {cs : List Candidate}
      {fs : List JsFunction} {rs : List Rejection} {es : List Event} :
      Rejects t source c r e → Account t source cs fs rs es →
      Account t source (c :: cs) fs (r :: rs) (e :: es)

namespace Account

variable {t source : Text} {cs : List Candidate} {fs : List JsFunction} {rs : List Rejection}
  {es : List Event}

/-- As many functions and rejections as candidates, and as many records. -/
theorem length_eq (h : Account t source cs fs rs es) :
    fs.length + rs.length = cs.length ∧ es.length = cs.length := by
  induction h with
  | done => exact ⟨rfl, rfl⟩
  | function _ _ ih =>
    simp only [List.length_cons]
    omega
  | rejection _ _ ih =>
    simp only [List.length_cons]
    omega

/-- The rejections stand where some of the candidates stand, in the same order. -/
theorem starts_sublist (h : Account t source cs fs rs es) :
    (rs.map Rejection.start).Sublist (cs.map Candidate.start) := by
  induction h with
  | done => exact List.Sublist.refl _
  | function _ _ ih => exact ih.cons _
  | rejection hr _ ih =>
    rw [List.map_cons, List.map_cons, hr.start]
    exact ih.cons_cons _

end Account

/-- Dealing out candidates that are each built on their own. -/
theorem account_map_build (t source : Text) (cs : List Candidate) :
    Account t source cs (accepted (cs.map fun c => (c, build t c)))
      (rejected (cs.map fun c => (c, build t c)))
      (events source (cs.map fun c => (c, build t c))) := by
  induction cs with
  | nil => exact .done
  | cons c cs ih =>
    rw [List.map_cons]
    cases h : build t c with
    | ok f => exact .function (accepts_of_build h) ih
    | error r => exact .rejection (rejects_of_build source h) ih

/-- **Every candidate is accounted for once.** The functions of the module, the rejections and the
records of an extraction are an account of the candidates of the text, each built on its own. There are
as many functions and rejections as candidates, and as many records, and the offsets of the rejections
strictly increase. -/
theorem candidates_accounted (t source : Text) :
    Account t source (Candidate.ofText t) (moduleOf source (outcomes t)).functions
      (rejected (outcomes t)) (events source (outcomes t)) ∧
    (moduleOf source (outcomes t)).functions.length + (rejected (outcomes t)).length =
      (Candidate.ofText t).length ∧
    (events source (outcomes t)).length = (Candidate.ofText t).length ∧
    (rejected (outcomes t)).Pairwise fun a b => a.start < b.start := by
  have haccount : Account t source (Candidate.ofText t) (moduleOf source (outcomes t)).functions
      (rejected (outcomes t)) (events source (outcomes t)) := by
    rw [outcomes_eq]
    exact account_map_build t source (Candidate.ofText t)
  have hordered : ((Candidate.ofText t).map Candidate.start).Pairwise (· < ·) :=
    List.pairwise_map.2 (Candidate.pairwise_start_ofText t)
  exact ⟨haccount, haccount.length_eq.1, haccount.length_eq.2,
    List.pairwise_map.1 (hordered.sublist haccount.starts_sublist)⟩

end BlazorBridge.Extraction

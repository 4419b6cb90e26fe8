import BlazorBridge.Watching
import BlazorBridge.Proofs.Pattern.Matches

/-!
# The attempts of a run

An attempt is one call for the wrapper of a source, in the tree that it finds. This module lists the
attempts that each kind of run makes, in order and with nothing left out: a list ends where a fault ends
the run. Two things are shown of every list. It is the one that the run reports: the events of a run that
belong to attempts are the records of its attempts (`attemptEvents_generateFiles` up to
`attemptEvents_watch`). And the failures that are counted are those of the first pass
(`failures_generateAll`, `failures_watch`).
-/

namespace BlazorBridge

/-- Whether an event belongs to an attempt: it says that one begins, or that it failed. -/
def Event.isOfAttempt : Event → Bool
  | .processing _ | .failed .. => true
  | _ => false

/-! ## One run after another -/

namespace Run

variable {α β γ : Type}

/-- The events of a run that belong to attempts. -/
def attemptEvents (r : Run α) : List Event := r.events.filter Event.isOfAttempt

/-- What is made of the tree and the value that a run leaves; nothing if it ends in a fault. -/
def followed (r : Run α) (next : FileTree → α → List β) : List β :=
  match r.outcome with
  | .ok value => next r.tree value
  | .error _ => []

theorem followed_flatMap (r : Run α) (next : FileTree → α → List β) (f : β → List γ) :
    (r.followed next).flatMap f = r.followed fun t value => (next t value).flatMap f := by
  unfold followed
  cases r.outcome <;> rfl

theorem attemptEvents_after (events : List Event) (r : Run α) :
    (r.after events).attemptEvents = events.filter Event.isOfAttempt ++ r.attemptEvents :=
  List.filter_append _ _

theorem attemptEvents_andThen (r : Run α) (next : FileTree → α → Run β) :
    (r.andThen next).attemptEvents =
      r.attemptEvents ++ r.followed fun t value => (next t value).attemptEvents := by
  unfold andThen followed
  cases r.outcome with
  | ok value => exact attemptEvents_after _ _
  | error fault => exact (List.append_nil _).symm

/-- A run is not followed by an attempt if what follows reports none. -/
theorem attemptEvents_andThen_of_eq_nil {next : FileTree → α → Run β}
    (h : ∀ t value, (next t value).attemptEvents = []) (r : Run α) :
    (r.andThen next).attemptEvents = r.attemptEvents := by
  rw [attemptEvents_andThen]
  unfold followed
  cases r.outcome with
  | ok value => simp only [h, List.append_nil]
  | error fault => exact List.append_nil _

theorem outcome_andThen_eq_ok_iff {r : Run α} {next : FileTree → α → Run β} {value : β} :
    (r.andThen next).outcome = .ok value ↔
      ∃ first, r.outcome = .ok first ∧ (next r.tree first).outcome = .ok value := by
  unfold andThen
  cases r.outcome with
  | ok first => simp [after]
  | error fault => simp [stop]

end Run

namespace Generation

/-! ## Attempts -/

/-- A call for the wrapper of a source, in the tree that it finds. -/
structure Attempt where
  tree : FileTree
  source : Path

namespace Attempt

/-- What an attempt comes to. -/
def run (options : Options) (a : Attempt) : Run Path := generateFile options a.tree a.source

/-- The fault that an attempt fails with, if it fails: its source cannot be read, or its wrapper cannot
be written. -/
def failure? (options : Options) (a : Attempt) : Option Fault :=
  match (a.run options).outcome with
  | .ok _ => none
  | .error fault => if fault.ofOneFile then some fault else none

/-- An attempt fails. -/
def Fails (options : Options) (a : Attempt) : Prop :=
  ∃ fault, (a.run options).outcome = .error fault ∧ fault.ofOneFile = true

theorem isSome_failure?_iff {options : Options} {a : Attempt} :
    (a.failure? options).isSome = true ↔ a.Fails options := by
  unfold failure? Fails
  cases (a.run options).outcome with
  | ok _ => simp
  | error fault => cases h : fault.ofOneFile <;> simp [h]

instance (options : Options) (a : Attempt) : Decidable (a.Fails options) :=
  decidable_of_iff _ isSome_failure?_iff

/-- What is reported of an attempt: that it begins, and the fault that it fails with. -/
def records (options : Options) (a : Attempt) : List Event :=
  .processing a.source :: (a.failure? options).toList.map (.failed a.source)

end Attempt

/-- The attempts of a run over sources. -/
def attempts (options : Options) (t : FileTree) : List Path → List Attempt
  | [] => []
  | source :: rest =>
    ⟨t, source⟩ ::
      match (generateFile options t source).outcome with
      | .ok _ => attempts options (generateFile options t source).tree rest
      | .error fault =>
        if fault.ofOneFile then attempts options (generateFile options t source).tree rest else []

/-- The number of attempts that fail. -/
def failures (options : Options) (made : List Attempt) : Nat :=
  made.countP fun a => decide (a.Fails options)

theorem failures_ne_zero_iff {options : Options} {made : List Attempt} :
    failures options made ≠ 0 ↔ ∃ a ∈ made, a.Fails options := by
  rw [failures, ← Nat.pos_iff_ne_zero, List.countP_pos_iff]
  simp

/-! ## What is reported -/

theorem filter_reports (source : Text) (outcomes : List (Candidate × Except Rejection JsFunction)) :
    (reports source outcomes).filter Event.isOfAttempt = [] := by
  have hevents : (Extraction.events source outcomes).filter Event.isOfAttempt = [] := by
    rw [List.filter_eq_nil_iff]
    intro e he
    obtain ⟨⟨c, outcome⟩, -, rfl⟩ := List.mem_map.1 he
    cases outcome <;> simp [Extraction.event, Event.isOfAttempt]
  unfold reports
  rw [List.filter_append, List.filter_append, hevents]
  cases Extraction.rejected outcomes <;> rfl

/-- An attempt by itself reports only that it begins. -/
theorem attemptEvents_generateFile (options : Options) (t : FileTree) (source : Path) :
    (generateFile options t source).attemptEvents = [.processing source] := by
  have hreports (outcomes : List (Candidate × Except Rejection JsFunction)) (more : List Event) :
      (.processing source :: reports source.toText outcomes ++ more).filter Event.isOfAttempt =
        .processing source :: more.filter Event.isOfAttempt := by
    rw [List.cons_append, List.filter_cons_of_pos rfl, List.filter_append, filter_reports]
    rfl
  unfold generateFile Run.attemptEvents
  split
  · rfl
  · rename_i text _
    have hplain := hreports (Extraction.outcomes text) []
    rw [List.append_nil] at hplain
    dsimp only
    split
    · exact hplain
    · split
      · exact hplain
      · exact hreports _ _

/-- A run over sources reports its attempts. -/
theorem attemptEvents_generateFiles (options : Options) (t : FileTree) (sources : List Path) :
    (generateFiles options t sources).attemptEvents =
      (attempts options t sources).flatMap (Attempt.records options) := by
  induction sources generalizing t with
  | nil => rfl
  | cons source rest ih =>
    have hfirst := attemptEvents_generateFile options t source
    unfold Run.attemptEvents at hfirst ih ⊢
    rw [generateFiles, attempts, List.flatMap_cons, Attempt.records, Attempt.failure?, Attempt.run]
    dsimp only
    cases (generateFile options t source).outcome with
    | ok output =>
      simp only [Run.after, List.filter_append, hfirst, ih]
      rfl
    | error fault =>
      cases hone : fault.ofOneFile with
      | true =>
        simp only [hone, if_true, List.filter_append, hfirst, ih]
        rfl
      | false =>
        simp only [hone, Bool.false_eq_true, if_false, Run.stop, hfirst]
        rfl

/-! ## What is counted -/

/-- A run over sources counts the attempts that fail. -/
theorem failures_generateFiles {options : Options} {t : FileTree} {sources : List Path} {n : Nat}
    (h : (generateFiles options t sources).outcome = .ok n) :
    n = failures options (attempts options t sources) := by
  induction sources generalizing t n with
  | nil => exact (Except.ok.inj h).symm
  | cons source rest ih =>
    have hfails : (⟨t, source⟩ : Attempt).Fails options ↔
        ∃ fault, (generateFile options t source).outcome = .error fault ∧ fault.ofOneFile = true :=
      Iff.rfl
    rw [generateFiles] at h
    rw [attempts, failures, List.countP_cons]
    dsimp only at h
    cases houtcome : (generateFile options t source).outcome with
    | ok output =>
      rw [houtcome] at h
      have hnot : ¬ (⟨t, source⟩ : Attempt).Fails options := by simp [hfails, houtcome]
      simp only [hnot, decide_false, Bool.false_eq_true, if_false]
      exact ih h
    | error fault =>
      rw [houtcome] at h
      cases hone : fault.ofOneFile with
      | true =>
        have hfail : (⟨t, source⟩ : Attempt).Fails options := hfails.2 ⟨fault, houtcome, hone⟩
        simp only [hone, if_true] at h
        obtain ⟨m, hm, rfl⟩ := Pattern.map_eq_ok_iff.1 h
        simp only [hone, hfail, decide_true, if_true]
        rw [ih hm, failures]
      | false => simp [hone, Run.stop] at h

/-- The attempts of a first pass over the files that match a pattern. -/
def firstAttempts (options : Options) (directory : Option Path) (pattern : Text) (t : FileTree) :
    List Attempt :=
  match Pattern.find t directory pattern with
  | .ok files => attempts options t (files.map Location.toPath)
  | .error _ => []

theorem attemptEvents_generateAll (options : Options) (directory : Option Path) (pattern : Text)
    (t : FileTree) :
    (generateAll options directory pattern t).attemptEvents =
      (firstAttempts options directory pattern t).flatMap (Attempt.records options) := by
  have hverdict (t : FileTree) (n : Nat) : (Run.done t [verdict n] n).attemptEvents = [] := by
    unfold verdict
    split <;> rfl
  unfold generateAll firstAttempts
  cases Pattern.find t directory pattern with
  | error fault => rfl
  | ok files =>
    cases files with
    | nil => rfl
    | cons first more =>
      simp only [Run.attemptEvents_andThen_of_eq_nil hverdict, Run.attemptEvents_after,
        attemptEvents_generateFiles]
      rfl

/-- Generating everything counts the attempts that fail. -/
theorem failures_generateAll {options : Options} {directory : Option Path} {pattern : Text}
    {t : FileTree} {n : Nat} (h : (generateAll options directory pattern t).outcome = .ok n) :
    n = failures options (firstAttempts options directory pattern t) := by
  unfold generateAll at h
  unfold firstAttempts
  cases hfind : Pattern.find t directory pattern with
  | error fault => simp [hfind, Run.stop] at h
  | ok files =>
    cases files with
    | nil =>
      simp only [hfind, Run.done, Except.ok.injEq] at h
      exact h.symm
    | cons first more =>
      simp only [hfind, Run.outcome_andThen_eq_ok_iff] at h
      obtain ⟨m, hm, hn⟩ := h
      obtain rfl : m = n := Except.ok.inj hn
      exact failures_generateFiles hm

end Generation

namespace Watching

open Generation (Attempt attempts firstAttempts failures)

variable (options : Options) (directory : Option Path) (pattern : Text)

/-! ## Attempts of a watch -/

/-- The attempts of a regeneration of those of the changed files that match. -/
def attemptsEach (matching : List Location) (t : FileTree) : List Location → List Attempt
  | [] => []
  | l :: rest =>
    if matching.contains l then
      attempts options t [l.toPath] ++
        (Generation.generateFiles options t [l.toPath]).followed fun t _ =>
          attemptsEach matching t rest
    else attemptsEach matching t rest

/-- The attempts of a batch. -/
def batchAttempts (t : FileTree) (b : Batch) : List Attempt :=
  match b.changes.filter Change.isRelevant, Pattern.find (t.editAll b.edits) directory pattern with
  | change :: changes, .ok matching =>
    if (change :: changes).any fun c => (Path.ofText c.path).hasNull then []
    else
      attemptsEach options matching (t.editAll b.edits)
        (changedLocations (t.editAll b.edits).here ((change :: changes).map Change.path))
  | _, _ => []

/-- The attempts of batches in order. -/
def batchesAttempts (t : FileTree) : List Batch → List Attempt
  | [] => []
  | b :: rest =>
    batchAttempts options directory pattern t b ++
      (batch options directory pattern t b).followed fun t _ => batchesAttempts t rest

/-- The attempts that a watch makes after its first pass. -/
def laterAttempts (arriving : List Batch) (t : FileTree) : List Attempt :=
  (start options directory pattern t).followed fun t summary =>
    if summary.watched.isEmpty then [] else batchesAttempts options directory pattern t arriving

theorem attemptEvents_regenerateEach (matching : List Location) (t : FileTree)
    (changed : List Location) :
    (regenerateEach options matching t changed).attemptEvents =
      (attemptsEach options matching t changed).flatMap (Attempt.records options) := by
  induction changed generalizing t with
  | nil => rfl
  | cons l changed ih =>
    rw [regenerateEach, attemptsEach]
    by_cases hmem : l ∈ matching
    · rw [if_pos hmem, if_pos (List.contains_iff_mem.2 hmem), Run.attemptEvents_andThen,
        Run.attemptEvents_after, Generation.attemptEvents_generateFiles, List.flatMap_append,
        Run.followed_flatMap]
      simp only [← ih]
      rfl
    · rw [if_neg hmem, if_neg (mt List.contains_iff_mem.1 hmem), Run.attemptEvents_after, ih]
      rfl

theorem attemptEvents_batch (t : FileTree) (b : Batch) :
    (batch options directory pattern t b).attemptEvents =
      (batchAttempts options directory pattern t b).flatMap (Attempt.records options) := by
  unfold batch batchAttempts
  dsimp only
  cases b.changes.filter Change.isRelevant with
  | nil => rfl
  | cons change changes =>
    dsimp only
    rw [Run.attemptEvents_andThen_of_eq_nil fun _ _ => rfl]
    unfold regenerate
    cases Pattern.find (t.editAll b.edits) directory pattern with
    | error fault => rfl
    | ok matching =>
      dsimp only
      split
      · rfl
      · exact attemptEvents_regenerateEach options matching _ _

theorem attemptEvents_batches (t : FileTree) (arriving : List Batch) :
    (batches options directory pattern t arriving).attemptEvents =
      (batchesAttempts options directory pattern t arriving).flatMap (Attempt.records options) := by
  induction arriving generalizing t with
  | nil => rfl
  | cons b rest ih =>
    rw [batches, batchesAttempts, Run.attemptEvents_andThen, List.flatMap_append,
      Run.followed_flatMap, attemptEvents_batch]
    simp only [ih]

theorem attemptEvents_start (t : FileTree) :
    (start options directory pattern t).attemptEvents =
      (firstAttempts options directory pattern t).flatMap (Attempt.records options) := by
  unfold start firstAttempts
  cases Pattern.find t directory pattern with
  | error fault => rfl
  | ok files =>
    cases files with
    | nil => rfl
    | cons first more =>
      dsimp only
      rw [Run.attemptEvents_andThen_of_eq_nil fun _ _ => rfl]
      exact Generation.attemptEvents_generateFiles options t _

/-- A watch reports the attempts of its first pass and those it makes later. -/
theorem attemptEvents_watch (arriving : List Batch) (t : FileTree) :
    (watch options directory pattern arriving t).attemptEvents =
      (firstAttempts options directory pattern t ++
        laterAttempts options directory pattern arriving t).flatMap (Attempt.records options) := by
  have hnext (t : FileTree) (summary : Summary) :
      (if summary.watched.isEmpty then Run.done t [] summary
        else (batches options directory pattern t arriving).andThen
          fun t _ => .done t [.stopped] summary).attemptEvents =
      (if summary.watched.isEmpty then []
        else batchesAttempts options directory pattern t arriving).flatMap
          (Attempt.records options) := by
    split
    · rfl
    · rw [Run.attemptEvents_andThen_of_eq_nil fun _ _ => rfl]
      exact attemptEvents_batches options directory pattern t arriving
  rw [watch, Run.attemptEvents_andThen, attemptEvents_start, List.flatMap_append, laterAttempts,
    Run.followed_flatMap]
  simp only [hnext]

variable {options directory pattern}

/-- A watch that goes on to its end counts the attempts of its first pass that fail, and no others. -/
theorem failures_watch {arriving : List Batch} {t : FileTree} {summary : Summary}
    (h : (watch options directory pattern arriving t).outcome = .ok summary) :
    summary.failures = failures options (firstAttempts options directory pattern t) := by
  have hstart : (start options directory pattern t).outcome = .ok summary := by
    obtain ⟨first, hfirst, hnext⟩ := Run.outcome_andThen_eq_ok_iff.1 h
    suffices hsame : first = summary by rw [hfirst, hsame]
    split at hnext
    · exact Except.ok.inj hnext
    · obtain ⟨-, -, hlast⟩ := Run.outcome_andThen_eq_ok_iff.1 hnext
      exact Except.ok.inj hlast
  unfold start at hstart
  unfold firstAttempts
  cases hfind : Pattern.find t directory pattern with
  | error fault => simp [hfind, Run.stop] at hstart
  | ok files =>
    cases files with
    | nil =>
      simp only [hfind, Run.done, Except.ok.injEq] at hstart
      rw [← hstart]
      rfl
    | cons first more =>
      simp only [hfind, Run.outcome_andThen_eq_ok_iff] at hstart
      obtain ⟨n, hn, hsummary⟩ := hstart
      rw [← Except.ok.inj hsummary]
      exact Generation.failures_generateFiles hn

end Watching

end BlazorBridge

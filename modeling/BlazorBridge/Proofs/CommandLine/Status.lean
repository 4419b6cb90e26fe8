import BlazorBridge.CommandLine
import BlazorBridge.Proofs.Watching.Attempts

/-!
# The exit status

A run that is given usable arguments and a valid namespace ends with status 1 exactly if an attempt of
its first pass fails (`status_tells_first_pass`). So the status tells of every failure where files are
only generated. Where they are watched, it does not tell of a failure after a first pass without any
(`status_silent_on_later_failure`): the status is right exactly if no such failure comes.
-/

namespace BlazorBridge.CommandLine

open Generation (Attempt firstAttempts failures)

variable {s : Settings} {options : Options} {pattern : Text} {arriving : List Batch} {t : FileTree}

/-! ## The attempts of a run -/

/-- The attempts that a run with settings makes: those of its first pass and, if files are watched, those
it makes later. -/
def attempts (s : Settings) (options : Options) (pattern : Text) (arriving : List Batch)
    (t : FileTree) : List Attempt :=
  firstAttempts options none pattern t ++
    if s.watch then Watching.laterAttempts options none pattern arriving t else []

theorem attempts_of_not_watch (h : s.watch = false) :
    attempts s options pattern arriving t = firstAttempts options none pattern t := by
  rw [attempts, h]
  exact List.append_nil _

/-- The run reports these attempts. -/
theorem attemptEvents_work (s : Settings) (options : Options) (pattern : Text)
    (arriving : List Batch) (t : FileTree) :
    (work s options pattern arriving t).attemptEvents =
      (attempts s options pattern arriving t).flatMap (Attempt.records options) := by
  cases hwatch : s.watch with
  | true =>
    rw [work, attempts, hwatch, if_pos rfl, if_pos rfl]
    exact Watching.attemptEvents_watch options none pattern arriving t
  | false =>
    rw [attempts_of_not_watch hwatch, work, hwatch, if_neg (by simp),
      Run.attemptEvents_andThen_of_eq_nil fun _ _ => rfl]
    exact Generation.attemptEvents_generateAll options none pattern t

/-- A run counts the attempts of its first pass that fail, and no others. -/
theorem failures_work {summary : Watching.Summary}
    (h : (work s options pattern arriving t).outcome = .ok summary) :
    summary.failures = failures options (firstAttempts options none pattern t) := by
  unfold work at h
  split at h
  · exact Watching.failures_watch h
  · obtain ⟨n, hn, hsummary⟩ := Run.outcome_andThen_eq_ok_iff.1 h
    rw [← Except.ok.inj hsummary]
    exact Generation.failures_generateAll hn

/-! ## The status -/

theorem statusOf_eq_one_iff {n : Nat} : statusOf n = 1 ↔ n ≠ 0 := by
  unfold statusOf
  split <;> simp_all

theorem statusOf_eq_zero_iff {n : Nat} : statusOf n = 0 ↔ n = 0 := by
  unfold statusOf
  split <;> simp_all

/-- A run with usable arguments and a valid namespace that ends has a pattern, and its status is that
of the failures counted. -/
theorem exists_summary_of_run {entry : Entry} {setting : Option Text} {arguments left : List Text}
    {result : Result}
    (hread : readRequest (defaultNamespace setting) arguments = .ok (.settings s left))
    (hspace : s.space.bind Options.ofNamespace? = some options)
    (hrun : run entry setting arguments arriving t = .ok result) :
    ∃ pattern summary, s.input.join = some pattern ∧
      (work s options pattern arriving t).outcome = .ok summary ∧
      result.status = statusOf summary.failures := by
  unfold run at hrun
  simp only [hread] at hrun
  unfold runSettings at hrun
  rw [hspace] at hrun
  cases hinput : s.input.join with
  | none => simp [hinput] at hrun
  | some pattern =>
    simp only [hinput] at hrun
    cases hwork : (work s options pattern arriving t).outcome with
    | error fault => simp [hwork] at hrun
    | ok summary =>
      simp only [hwork, Except.ok.injEq] at hrun
      exact ⟨pattern, summary, rfl, hwork, by rw [← hrun]⟩

/-- **The status tells of the first pass.** Take a run with usable arguments and a valid namespace that
ends, and all the attempts that it reports. Its status is 1 if an attempt of the first pass fails and 0
otherwise. So the status is 1 exactly if any attempt fails, unless one fails later and none in the first
pass. Without a watch there are no later ones. -/
theorem status_tells_first_pass {entry : Entry} {setting : Option Text}
    {arguments left : List Text} {result : Result}
    (hread : readRequest (defaultNamespace setting) arguments = .ok (.settings s left))
    (hspace : s.space.bind Options.ofNamespace? = some options)
    (hrun : run entry setting arguments arriving t = .ok result) :
    ∃ pattern, s.input.join = some pattern ∧
      (work s options pattern arriving t).attemptEvents =
        (attempts s options pattern arriving t).flatMap (Attempt.records options) ∧
      (result.status = 1 ↔ ∃ a ∈ firstAttempts options none pattern t, a.Fails options) ∧
      (result.status = 0 ↔ ¬ ∃ a ∈ firstAttempts options none pattern t, a.Fails options) ∧
      ((result.status = 1 ↔ ∃ a ∈ attempts s options pattern arriving t, a.Fails options) ↔
        ((∃ a ∈ attempts s options pattern arriving t, a.Fails options) →
          ∃ a ∈ firstAttempts options none pattern t, a.Fails options)) ∧
      (s.watch = false →
        attempts s options pattern arriving t = firstAttempts options none pattern t) := by
  obtain ⟨pattern, summary, hpattern, hwork, hstatus⟩ := exists_summary_of_run hread hspace hrun
  have hfirst : summary.failures ≠ 0 ↔
      ∃ a ∈ firstAttempts options none pattern t, a.Fails options := by
    rw [failures_work hwork, Generation.failures_ne_zero_iff]
  have hone : result.status = 1 ↔ ∃ a ∈ firstAttempts options none pattern t, a.Fails options := by
    rw [hstatus, statusOf_eq_one_iff, hfirst]
  have hzero : result.status = 0 ↔
      ¬ ∃ a ∈ firstAttempts options none pattern t, a.Fails options := by
    rw [hstatus, statusOf_eq_zero_iff, ← hfirst, Decidable.not_not]
  -- An attempt of the first pass is one of the attempts.
  have hsome (h : ∃ a ∈ firstAttempts options none pattern t, a.Fails options) :
      ∃ a ∈ attempts s options pattern arriving t, a.Fails options := by
    obtain ⟨a, ha, hfails⟩ := h
    exact ⟨a, List.mem_append_left _ ha, hfails⟩
  refine ⟨pattern, hpattern, attemptEvents_work s options pattern arriving t, hone, hzero, ?_,
    attempts_of_not_watch⟩
  rw [hone]
  exact ⟨fun h => h.2, fun h => ⟨hsome, h⟩⟩

/-! ## A later failure -/

/-- A tree with one source, which holds the given bytes. -/
def oneSource (bytes : List UInt8) : FileTree where
  here := ["w".toList]
  entries := [(["w".toList], .directory), (["w".toList, "a.js".toList], .file bytes)]

/-- That source is overwritten with the given bytes, and this is reported. -/
def overwriting (bytes : List UInt8) : Batch where
  edits := [(["w".toList, "a.js".toList], .file bytes)]
  changes := [⟨.modified, "/w/a.js".toList⟩]

/-- The arguments of a watch over the sources of a directory. -/
def watchArguments : List Text := ["-i".toList, "*.js".toList, "--watch".toList]

/-- The settings that they stand for. -/
def watchSettings : Settings where
  input := some (some "*.js".toList)
  watch := true
  space := some standardNamespace

theorem readRequest_watchArguments :
    readRequest (defaultNamespace none) watchArguments = .ok (.settings watchSettings []) := by
  decide +kernel

theorem ofNamespace?_watchSettings :
    watchSettings.space.bind Options.ofNamespace? = some Options.standard := by
  decide +kernel

theorem exists_result {r : Except Failure Result} {status : Nat}
    (h : r.toOption.map Result.status = some status) :
    ∃ result, r = .ok result ∧ result.status = status := by
  cases r with
  | error failure => exact absurd h (by simp [Except.toOption])
  | ok result => exact ⟨result, rfl, Option.some.inj h⟩

/-- A source that cannot be read in the first pass is told of, though it is mended later. -/
theorem status_tells_of_unreadable_source :
    ∃ result, run .program none watchArguments [overwriting []] (oneSource [0xff]) = .ok result ∧
      result.status = 1 := by
  obtain ⟨result, hrun, -⟩ : ∃ result, run .program none watchArguments [overwriting []]
      (oneSource [0xff]) = .ok result ∧ result.status = 1 := exists_result (by decide +kernel)
  obtain ⟨pattern, hpattern, -, hone, -⟩ :=
    status_tells_first_pass readRequest_watchArguments ofNamespace?_watchSettings hrun
  obtain rfl : "*.js".toList = pattern := Option.some.inj hpattern
  exact ⟨result, hrun, hone.2 (by decide +kernel)⟩

/-- The status does not tell of every attempt that fails: a source that can be read in the first pass is
overwritten with bytes that are no text, and the watch ends with status 0. -/
theorem status_silent_on_later_failure :
    ¬ ∀ (entry : Entry) (setting : Option Text) (arguments left : List Text) (arriving : List Batch)
        (t : FileTree) (s : Settings) (options : Options) (pattern : Text) (result : Result),
      readRequest (defaultNamespace setting) arguments = .ok (.settings s left) →
      s.space.bind Options.ofNamespace? = some options → s.input.join = some pattern →
      run entry setting arguments arriving t = .ok result →
      (result.status = 1 ↔ ∃ a ∈ attempts s options pattern arriving t, a.Fails options) := by
  intro hclaim
  obtain ⟨result, hrun, hstatus⟩ : ∃ result, run .program none watchArguments [overwriting [0xff]]
      (oneSource []) = .ok result ∧ result.status = 0 := exists_result (by decide +kernel)
  have hfails : ∃ a ∈ attempts watchSettings .standard "*.js".toList [overwriting [0xff]]
      (oneSource []), a.Fails .standard := by
    decide +kernel
  have hone : result.status = 1 :=
    (hclaim .program none watchArguments [] _ _ watchSettings .standard "*.js".toList result
      readRequest_watchArguments ofNamespace?_watchSettings rfl hrun).2 hfails
  omega

end BlazorBridge.CommandLine

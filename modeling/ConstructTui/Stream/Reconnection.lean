import ConstructTui.Stream.Worker

/-!
# Reconnecting

From one attempt that fails to the next, the worker draws a delay, sleeps, looks once into its
channel and drops the old session. The sleep is a race: a command that arrives is taken, and the
worker goes on at once, with the rest of its delay unspent.

## Main definitions

* `StreamWorker.FullDelay`: the delay that was drawn has elapsed.

## Main results

* `StreamWorker.step_backingOff`, `StreamWorker.step_sleeping`, `StreamWorker.step_loopHead`,
  `StreamWorker.step_invalidating`, `StreamWorker.step_opening`: what a phase waits for.
* `StreamWorker.between_attempts`: what happens between two attempts.
* `StreamWorker.fullDelay_iff`: the delay elapses exactly when no command is received meanwhile.
-/

namespace StreamWorker

variable {w w' : Worker} {answer : Answer}

/-! ### What a phase waits for -/

theorem step_exited (hphase : w.phase = .exited) : step w answer = none := by
  unfold step
  rw [hphase]

theorem step_backingOff (hphase : w.phase = .backingOff) (h : step w answer = some w') :
    ∃ delayMs, answer = .delayDrawn delayMs ∧ DelayDrawn w.attempt delayMs ∧
      w'.phase = .sleeping := by
  unfold step at h
  rw [hphase] at h
  cases answer with
  | delayDrawn delayMs =>
    obtain ⟨hdrawn, h⟩ := Option.ite_none_right_eq_some.mp h
    exact ⟨delayMs, rfl, hdrawn, congrArg Worker.phase (Option.some.inj h).symm⟩
  | polled _ | invalidated _ | openEnded _ | sendEnded _ | ticked _ | received _ _ | incoming _
  | elapsed => cases h

/-- A command taken while no stream is open lets the worker go on, or ends it. -/
theorem phase_absorb (w : Worker) (next : Phase) (cmd : Option StreamCmd) :
    (w.absorb next cmd).phase = next ∨ (w.absorb next cmd).phase = .exited := by
  match cmd with
  | none | some .shutdown | some .close => exact .inr rfl
  | some (.send _) | some (.subscribe _ _) => exact .inl rfl

theorem step_sleeping (hphase : w.phase = .sleeping) (h : step w answer = some w') :
    (answer = .elapsed ∨ ∃ cmd ok, answer = .received cmd ok) ∧
      (w'.phase = .loopHead ∨ w'.phase = .exited) := by
  unfold step at h
  rw [hphase] at h
  cases answer with
  | elapsed => exact ⟨.inl rfl, .inl (congrArg Worker.phase (Option.some.inj h).symm)⟩
  | received cmd ok =>
    obtain rfl := Option.some.inj h
    exact ⟨.inr ⟨cmd, ok, rfl⟩, phase_absorb w .loopHead cmd⟩
  | polled _ | invalidated _ | openEnded _ | sendEnded _ | ticked _ | incoming _ | delayDrawn _ =>
    cases h

theorem step_loopHead (hphase : w.phase = .loopHead) (h : step w answer = some w') :
    (∃ found, answer = .polled found) ∧ (w'.phase = .invalidating ∨ w'.phase = .exited) := by
  unfold step at h
  rw [hphase] at h
  cases answer with
  | polled found =>
    refine ⟨⟨found, rfl⟩, ?_⟩
    cases found with
    | empty => exact .inl (congrArg Worker.phase (Option.some.inj h).symm)
    | disconnected => exact .inr (congrArg Worker.phase (Option.some.inj h).symm)
    | command cmd =>
      obtain rfl := Option.some.inj h
      exact phase_absorb w .invalidating (some cmd)
  | invalidated _ | openEnded _ | sendEnded _ | ticked _ | received _ _ | incoming _ | delayDrawn _
  | elapsed => cases h

theorem step_invalidating (hphase : w.phase = .invalidating) (h : step w answer = some w') :
    ∃ since, answer = .invalidated since ∧ w' = w.openFrom since := by
  unfold step at h
  rw [hphase] at h
  cases answer with
  | invalidated since => exact ⟨since, rfl, (Option.some.inj h).symm⟩
  | polled _ | openEnded _ | sendEnded _ | ticked _ | received _ _ | incoming _ | delayDrawn _
  | elapsed => cases h

theorem step_opening (hphase : w.phase = .opening) (h : step w answer = some w') :
    ∃ result, answer = .openEnded result := by
  unfold step at h
  rw [hphase] at h
  cases answer with
  | openEnded result => exact ⟨result, rfl⟩
  | polled _ | invalidated _ | sendEnded _ | ticked _ | received _ _ | incoming _ | delayDrawn _
  | elapsed => cases h

/-- An attempt ends only where one is under way. -/
theorem phase_of_openEnded {result : OpenResult} (h : step w (.openEnded result) = some w') :
    w.phase = .opening ∧ w' = w.openEnded result := by
  unfold step at h
  cases hphase : w.phase with
  | opening =>
    rw [hphase] at h
    exact ⟨rfl, (Option.some.inj h).symm⟩
  | loopHead | invalidating | flushing | greeting | live | backingOff | sleeping | exited =>
    rw [hphase] at h
    cases h

theorem phase_openEnded {result : OpenResult} (hfailed : result ≠ .opened) :
    (w.openEnded result).phase = .backingOff := by
  cases result with
  | opened => exact absurd rfl hfailed
  | unauthenticated | failed => rfl

/-! ### From one attempt to the next -/

variable {mid post : List Answer} {result : OpenResult}

/-- A worker that is to come to the end of an attempt, and has none under way, has an answer before
it. -/
theorem next_answer (hphase : w.phase ≠ .opening)
    (h : Run.after step w (mid ++ .openEnded result :: post) = some w') :
    ∃ answer rest v, mid = answer :: rest ∧ step w answer = some v ∧
      Run.after step v (rest ++ .openEnded result :: post) = some w' := by
  cases mid with
  | nil =>
    obtain ⟨v, hv, -⟩ := Run.after_cons h
    exact absurd (phase_of_openEnded hv).1 hphase
  | cons answer rest =>
    obtain ⟨v, hv, hrest⟩ := Run.after_cons h
    exact ⟨answer, rest, v, rfl, hv, hrest⟩

/-- A worker that has exited comes to no attempt. -/
theorem not_exited (h : Run.after step w (mid ++ .openEnded result :: post) = some w') :
    w.phase ≠ .exited := by
  intro hphase
  obtain ⟨answer, rest, v, -, hv, -⟩ := next_answer (by rw [hphase]; decide) h
  rw [step_exited hphase] at hv
  cases hv

/-- After a failed attempt the worker draws a delay, sleeps, polls its channel, and drops the old
session. -/
theorem between_attempts (hphase : w.phase = .backingOff) (hmid : ∀ r, Answer.openEnded r ∉ mid)
    (h : Run.after step w (mid ++ .openEnded result :: post) = some w') :
    ∃ delayMs nap found since, mid = [.delayDrawn delayMs, nap, .polled found, .invalidated since] ∧
      DelayDrawn w.attempt delayMs ∧ (nap = .elapsed ∨ ∃ cmd ok, nap = .received cmd ok) := by
  obtain ⟨draw, rest₁, w₁, rfl, hdraw, h₁⟩ := next_answer (by rw [hphase]; decide) h
  obtain ⟨delayMs, rfl, hdrawn, hsleeping⟩ := step_backingOff hphase hdraw
  obtain ⟨nap, rest₂, w₂, rfl, hnap, h₂⟩ := next_answer (by rw [hsleeping]; decide) h₁
  obtain ⟨hwake, hwoken⟩ := step_sleeping hsleeping hnap
  have hhead := hwoken.resolve_right (not_exited h₂)
  obtain ⟨poll, rest₃, w₃, rfl, hpoll, h₃⟩ := next_answer (by rw [hhead]; decide) h₂
  obtain ⟨⟨found, rfl⟩, hpolled⟩ := step_loopHead hhead hpoll
  have hdropping := hpolled.resolve_right (not_exited h₃)
  obtain ⟨drop, rest₄, w₄, rfl, hdrop, h₄⟩ := next_answer (by rw [hdropping]; decide) h₃
  obtain ⟨since, rfl, rfl⟩ := step_invalidating hdropping hdrop
  cases rest₄ with
  | nil => exact ⟨delayMs, nap, found, since, rfl, hdrawn, hwake⟩
  | cons answer rest₅ =>
    -- the attempt under way ends, and it is the next one
    obtain ⟨v, hv, -⟩ := Run.after_cons h₄
    obtain ⟨r, rfl⟩ := step_opening rfl hv
    exact absurd (by simp) (hmid r)

/-- The delay drawn for an attempt has elapsed. -/
def FullDelay (attempt : UInt32) (mid : List Answer) : Prop :=
  ∃ delayMs rest, DelayDrawn attempt delayMs ∧ mid = .delayDrawn delayMs :: .elapsed :: rest

/-- **Between two consecutive attempts, the first of which failed, the full delay elapses exactly
when no command is received.** -/
theorem fullDelay_iff {ids : List String} {pre : List Answer} {failure : OpenResult}
    (hfailed : failure ≠ .opened) (hmid : ∀ r, Answer.openEnded r ∉ mid) {v : Worker}
    (hv : Run.after step (.start ids) (pre ++ [.openEnded failure]) = some v)
    (h : Run.after step v (mid ++ .openEnded result :: post) = some w') :
    FullDelay v.attempt mid ↔ ∀ cmd ok, Answer.received cmd ok ∉ mid := by
  have hphase : v.phase = .backingOff := by
    rw [Run.after_append] at hv
    obtain ⟨u, -, hv⟩ := Option.bind_eq_some_iff.mp hv
    obtain ⟨v', hstep, hv⟩ := Run.after_cons hv
    obtain rfl := Option.some.inj hv
    rw [(phase_of_openEnded hstep).2]
    exact phase_openEnded hfailed
  obtain ⟨delayMs, nap, found, since, rfl, hdrawn, hnap⟩ := between_attempts hphase hmid h
  constructor
  · rintro ⟨delayMs', rest, -, heq⟩ cmd ok hmem
    obtain rfl : nap = .elapsed := (List.cons.inj (List.cons.inj heq).2).1
    simp at hmem
  · intro hnone
    obtain rfl | ⟨cmd, ok, rfl⟩ := hnap
    · exact ⟨delayMs, _, hdrawn, rfl⟩
    · exact absurd (by simp) (hnone cmd ok)

/-- An attempt that fails. -/
def firstFailure : List Answer := [.polled .empty, .invalidated none] ++ [.openEnded .failed]

/-- A delay of a second, and what ends it. -/
def untilSecond (nap : Answer) : List Answer :=
  [.delayDrawn 1000, nap, .polled .empty, .invalidated none]

/-- Nobody does anything between two failures. -/
theorem fullDelay_undisturbed : ∃ v w, Run.after step (.start ["bob"]) firstFailure = some v ∧
    Run.after step v (untilSecond .elapsed ++ [.openEnded .failed]) = some w ∧
    FullDelay v.attempt (untilSecond .elapsed) := by
  have hv : Run.after step (.start ["bob"]) ([.polled .empty, .invalidated none] ++
      [.openEnded .failed]) = some (Run.ending step (.start ["bob"]) firstFailure) := rfl
  have hw : Run.after step (Run.ending step (.start ["bob"]) firstFailure)
      (untilSecond .elapsed ++ [.openEnded .failed]) = some _ := rfl
  refine ⟨_, _, hv, hw, (fullDelay_iff (by decide) ?_ hv hw).mpr ?_⟩
  · simp [untilSecond]
  · simp [untilSecond]

/-- The user adds a contact, and the worker tries again at once. -/
theorem not_fullDelay_subscribe :
    ∃ v w, Run.after step (.start ["bob"]) firstFailure = some v ∧
      Run.after step v (untilSecond (.received (some (.subscribe ["bob", "eve"] none)) true) ++
        [.openEnded .failed]) = some w ∧
      ¬FullDelay
        v.attempt (untilSecond (.received (some (.subscribe ["bob", "eve"] none)) true)) := by
  refine ⟨_, _, rfl, rfl, ?_⟩
  rintro ⟨delayMs, rest, -, heq⟩
  cases (List.cons.inj (List.cons.inj heq).2).1

end StreamWorker

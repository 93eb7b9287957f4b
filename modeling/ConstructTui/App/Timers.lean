import ConstructTui.App.Step
import ConstructTui.Lib.Run
import ConstructTui.Orchestrator.Walk
import Mathlib.Data.Finset.Card

/-!
# Timers

To schedule a timer, the task starts a sub-task that sleeps and then sends the firing of the timer
to the channel of the task, and it keeps a handle of the sub-task. To cancel the timer it aborts the
sub-task whose handle it has. So two things are out of the reach of a cancellation: a firing that
waits in the channel already, and a sub-task whose handle was overwritten when the timer was
scheduled again.

The moves here are the dispatch of any action, the end of any sub-task, the receipt of an event by
the run loop, an event of somebody else, and any change of the rest of the world. So a run of these
moves is a run of the task whatever the core answers, whatever the delays, and in whichever order
the timers expire.

## Main definitions

* `TimerMove`, `Pipeline.timerStep`: the moves of a task, its sub-tasks and its surroundings.
* `Pipeline.pending`, `Pipeline.queuedFirings`: the sub-tasks that a timer still waits for, and its
  firings in the channel.
* `Pipeline.firings`: how often a run hands the firing of a timer to the core.
* `Pipeline.TimersLawful`: a timer that is cancelled does not fire until it is scheduled again, and
  a timer that is scheduled fires at most once until then.

## Main results

* `Pipeline.timerStep_firings`, `Pipeline.firings_le`: a timer fires no more often than there are
  sub-tasks pending and firings queued.
* `Pipeline.timersLawful_iff`: the law holds of a move exactly when no firing of the timer is queued
  and no sub-task that the task has no handle of is pending.
-/

variable {ε : Type} (E : AppExternals ε)

/-! ### The moves -/

/-- What can happen to the timers of a task, and around them. -/
inductive TimerMove (ε : Type)
  | act (action : CoreAction)
  | expire (k : ℕ) (bundle : Except String String)
  | receive
  | send (event : IncomingEvent)
  | elsewhere (world : TaskWorld ε)

/-- The firing of a timer; only sub-tasks send it. -/
def IncomingEvent.isTimerFired : IncomingEvent → Bool
  | .timerFired _ => true
  | _ => false

/-- The sub-task waits for this timer. -/
def Spawned.waitsFor (timerId : String) : Spawned → Bool
  | .timer id _ => id = timerId
  | _ => false

/-- All but the timers, the sub-tasks and the channel becomes as it is in another world. -/
def TaskWorld.elsewhere (w world : TaskWorld ε) : TaskWorld ε :=
  { world with
    timers := w.timers, spawned := w.spawned, aborted := w.aborted, selfTx := w.selfTx }

/-- The move schedules the timer. -/
def TimerMove.schedules (timerId : String) : TimerMove ε → Bool
  | .act (.scheduleTimer id _) => id = timerId
  | _ => false

namespace Pipeline

/-- The run loop takes the next event of its channel and hands it to the core. What it does before
and after that is dispatching, or elsewhere. -/
def receive (p : Pipeline ε) : Option (Pipeline ε) :=
  match p.world.selfTx with
  | [] => none
  | event :: events => some { p with
    world := ((OrchestratorTask.handleEvent E.core event).run { p.world with selfTx := events }).2 }

/-- One move. -/
def timerStep (p : Pipeline ε) : TimerMove ε → Option (Pipeline ε)
  | .act action => some { p with
    world := ((OrchestratorTask.dispatch E.core p.config action).run p.world).2 }
  | .expire k bundle => (p.subTaskStep k bundle).map Prod.fst
  | .receive => p.receive E
  | .send event => if event.isTimerFired then none else some (p.send event)
  | .elsewhere world => some { p with world := p.world.elsewhere world }

/-- The move hands the firing of the timer to the core. -/
def fires (timerId : String) (p : Pipeline ε) : TimerMove ε → Bool
  | .receive => p.world.selfTx.head? = some (.timerFired timerId)
  | _ => false

/-- How often the moves hand the firing of the timer to the core. -/
def firings (timerId : String) : Pipeline ε → List (TimerMove ε) → ℕ
  | _, [] => 0
  | p, m :: ms => (p.timerStep E m).elim 0 fun p' =>
      (p.fires timerId m).toNat + firings timerId p' ms

/-- The sub-tasks that wait for the timer, and have neither ended nor been aborted. -/
def pending (timerId : String) (p : Pipeline ε) : Finset ℕ :=
  (Finset.range p.world.spawned.length).filter fun k =>
    (∃ task ∈ p.world.spawned[k]?, task.waitsFor timerId) ∧ k ∉ p.finished ∧ k ∉ p.world.aborted

/-- The firings of the timer that wait in the channel. -/
def queuedFirings (timerId : String) (p : Pipeline ε) : ℕ :=
  p.world.selfTx.count (.timerFired timerId)

/-! ### The law and its condition -/

/-- After the move, and until the timer is scheduled again, it fires at most so often. -/
def FiresAtMost (n : ℕ) (timerId : String) (p : Pipeline ε) (m : TimerMove ε) : Prop :=
  ∀ p' ∈ p.timerStep E m, ∀ ms : List (TimerMove ε), (∀ m' ∈ ms, m'.schedules timerId = false) →
    p'.firings E timerId ms ≤ n

/-- A timer that the move cancels does not fire until it is scheduled again, and one that the move
schedules fires at most once until then. -/
def TimersLawful (p : Pipeline ε) : TimerMove ε → Prop
  | .act (.cancelTimer timerId) => p.FiresAtMost E 0 timerId (.act (.cancelTimer timerId))
  | .act (.scheduleTimer timerId delayMs) =>
    p.FiresAtMost E 1 timerId (.act (.scheduleTimer timerId delayMs))
  | _ => True

/-- No firing of the timer that the move cancels is queued, and the only sub-task that waits for it
is the one that the task has the handle of; for one that the move schedules there is neither. -/
def TimersClear (p : Pipeline ε) : TimerMove ε → Prop
  | .act (.cancelTimer timerId) => p.queuedFirings timerId = 0 ∧
    ∀ k ∈ p.pending timerId, p.world.timers.find? timerId = some (timerId, k)
  | .act (.scheduleTimer timerId _) => p.queuedFirings timerId = 0 ∧ p.pending timerId = ∅
  | _ => True

/-- A task that has just been spawned: it has neither timers nor sub-tasks. -/
structure Fresh (p : Pipeline ε) : Prop where
  timers : p.world.timers = Table.empty
  spawned : p.world.spawned = []
  aborted : p.world.aborted = []
  finished : p.finished = []

end Pipeline

/-! ### What an action does to the timers -/

namespace OrchestratorTask

/-- The timers stay as they are; the world gets new sub-tasks that are none, and new events that are
no firings. -/
def Untimed (w w' : TaskWorld ε) : Prop :=
  w'.timers = w.timers ∧ w'.aborted = w.aborted ∧
    (∃ tasks, w'.spawned = w.spawned ++ tasks ∧ ∀ task ∈ tasks, isTimer task = false) ∧
    ∃ events, w'.selfTx = w.selfTx ++ events ∧ ∀ event ∈ events, event.isTimerFired = false

theorem Untimed.of_eq {w w' : TaskWorld ε} (htimers : w'.timers = w.timers)
    (haborted : w'.aborted = w.aborted) (hspawned : w'.spawned = w.spawned)
    (hself : w'.selfTx = w.selfTx) : Untimed w w' :=
  ⟨htimers, haborted, ⟨[], by rw [hspawned, List.append_nil], nofun⟩,
    [], by rw [hself, List.append_nil], nofun⟩

theorem Untimed.trans {u v w : TaskWorld ε} (h : Untimed u v) (h' : Untimed v w) : Untimed u w := by
  obtain ⟨htimers, haborted, ⟨tasks, hspawned, htasks⟩, events, hself, hevents⟩ := h
  obtain ⟨htimers', haborted', ⟨tasks', hspawned', htasks'⟩, events', hself', hevents'⟩ := h'
  refine ⟨htimers'.trans htimers, haborted'.trans haborted,
    ⟨tasks ++ tasks', by rw [hspawned', hspawned, List.append_assoc], fun task htask => ?_⟩,
    events ++ events', by rw [hself', hself, List.append_assoc], fun event hevent => ?_⟩
  · exact (List.mem_append.mp htask).elim (htasks task) (htasks' task)
  · exact (List.mem_append.mp hevent).elim (hevents event) (hevents' event)

theorem Untimed.refl (w : TaskWorld ε) : Untimed w w := .of_eq rfl rfl rfl rfl

variable {X : Externals ε} {C : TaskConfig}

theorem external_untimed {α : Type} (f : ε → α × ε) : (external f).Keeps Untimed :=
  .act fun _ => .of_eq rfl rfl rfl rfl

theorem sqlStep_untimed {α : Type} (f : Storage → α × Storage) (w : TaskWorld ε) :
    Untimed w (sqlStep X f w).2 := by
  unfold sqlStep
  split
  · exact .of_eq rfl rfl rfl rfl
  · exact .of_eq rfl rfl rfl rfl

theorem sql_untimed {α : Type} (f : Storage → α × Storage) : (sql X f).Keeps Untimed :=
  .act (sqlStep_untimed f)

theorem persist_untimed (cursor : Option String) :
    (CursorTracker.persist X cursor).Keeps Untimed := by
  cases cursor with
  | none => exact .pure _
  | some c =>
    exact CursorTracker.persist_keeps X c (sql_untimed _) (fun _ => sql_untimed _)
      fun _ => .of_eq rfl rfl rfl rfl

theorem storeAndNotify_untimed (contactId messageId text : String) :
    (storeAndNotify X contactId messageId text).Keeps Untimed := by
  refine .bind (external_untimed _) fun _ => .bind ?_ fun _ =>
    .update fun _ => .of_eq rfl rfl rfl rfl
  refine .bind (.update fun _ => .of_eq rfl rfl rfl rfl) fun _ =>
    .bind (sql_untimed _) fun stored => ?_
  split
  · exact .bind (.act fun _ => .of_eq rfl rfl rfl rfl) fun cursor => persist_untimed cursor
  · exact .pure _

theorem untimedSteps : SessionSteps X (fun _ => True) fun _ p => p.Keeps Untimed where
  toClosed := Prog.closed_keeps Untimed
  query _ := .read .refl _
  external := external_untimed
  inited := .read .refl _
  queued _ := .update fun _ => .of_eq rfl rfl rfl rfl
  popped _ := .update fun _ => .of_eq rfl rfl rfl rfl
  sendUi _ _ := .update fun _ => .of_eq rfl rfl rfl rfl
  notifyUi _ _ _ := .update fun _ => .of_eq rfl rfl rfl rfl
  sendOutgoing _ _ _ _ := .update fun _ =>
    ⟨rfl, rfl, ⟨[], (List.append_nil _).symm, nofun⟩, _, rfl, by simp [IncomingEvent.isTimerFired]⟩
  trySend _ := .update fun _ => .of_eq rfl rfl rfl rfl
  spawn task htask := .act fun _ =>
    ⟨rfl, rfl, ⟨[task], rfl, by simpa using htask⟩, [], (List.append_nil _).symm, nofun⟩
  pushFollowUp _ := .update fun _ => .of_eq rfl rfl rfl rfl
  exec _ _ := sql_untimed _
  hasAck _ := sql_untimed _
  secureLoad _ _ := sql_untimed _
  secureStoreSave _ _ := .update fun w => (sqlStep_untimed _ w).trans (.of_eq rfl rfl rfl rfl)
  storeAndNotify := storeAndNotify_untimed
  markInited _ := .update fun _ => .of_eq rfl rfl rfl rfl
  setEstablished _ _ := .update fun _ => .of_eq rfl rfl rfl rfl
  removeEstablished _ := .update fun _ => .of_eq rfl rfl rfl rfl

/-- Only the two actions about timers touch them. -/
theorem dispatch_untimed {action : CoreAction}
    (hschedule : ∀ timerId delayMs, action ≠ .scheduleTimer timerId delayMs)
    (hcancel : ∀ timerId, action ≠ .cancelTimer timerId) (w : TaskWorld ε) :
    Untimed w ((dispatch X C action).run w).2 := by
  have hkeeps : (dispatch X C action).Keeps Untimed :=
    untimedSteps.dispatch (loadsOnly_true action)
      (fun timerId delayMs h => absurd h (hschedule timerId delayMs))
      fun timerId h => absurd h (hcancel timerId)
  exact hkeeps.run .refl (fun _ _ _ => .trans) w

/-- To schedule a timer is to start a sub-task and keep its handle. -/
theorem dispatch_scheduleTimer (timerId : String) (delayMs : UInt64) (w : TaskWorld ε) :
    ((dispatch X C (.scheduleTimer timerId delayMs)).run w).2 =
      { w with
        timers := w.timers.insertOrReplace (timerId, w.spawned.length)
        spawned := w.spawned ++ [.timer timerId delayMs] } := rfl

/-- To cancel a timer is to abort the sub-task whose handle there is. -/
theorem dispatch_cancelTimer_of_some {timerId : String} {row : String × ℕ} {w : TaskWorld ε}
    (h : w.timers.find? timerId = some row) :
    ((dispatch X C (.cancelTimer timerId)).run w).2 =
      { w with
        timers := w.timers.deleteWhere fun r => r.1 = timerId
        aborted := w.aborted ++ [row.2] } := by
  show ((abortTimer timerId).run w).2 = _
  unfold abortTimer
  rw [Prog.run_update, h]

theorem dispatch_cancelTimer_of_none {timerId : String} {w : TaskWorld ε}
    (h : w.timers.find? timerId = none) : ((dispatch X C (.cancelTimer timerId)).run w).2 = w := by
  show ((abortTimer timerId).run w).2 = _
  unfold abortTimer
  rw [Prog.run_update, h]

end OrchestratorTask

/-! ### What a move does to the firings to come -/

namespace Pipeline

variable {E} {timerId : String} {p p' : Pipeline ε}

theorem mem_pending {k : ℕ} : k ∈ p.pending timerId ↔
    (∃ task ∈ p.world.spawned[k]?, task.waitsFor timerId) ∧ k ∉ p.finished ∧
      k ∉ p.world.aborted := by
  refine Finset.mem_filter.trans (and_iff_right_of_imp ?_)
  rintro ⟨⟨task, htask, -⟩, -⟩
  obtain ⟨hk, -⟩ := List.getElem?_eq_some_iff.mp htask
  exact Finset.mem_range.mpr hk

/-- Where no sub-task was started for the timer, none is pending that was not. -/
theorem pending_subset
    (hspawned : ∃ tasks, p'.world.spawned = p.world.spawned ++ tasks ∧
      ∀ task ∈ tasks, task.waitsFor timerId = false)
    (hfinished : p.finished ⊆ p'.finished) (haborted : p.world.aborted ⊆ p'.world.aborted) :
    p'.pending timerId ⊆ p.pending timerId := by
  intro k hk
  obtain ⟨⟨task, htask, hwaits⟩, hnotFinished, hnotAborted⟩ := mem_pending.mp hk
  obtain ⟨tasks, heq, htasks⟩ := hspawned
  refine mem_pending.mpr
    ⟨⟨task, ?_, hwaits⟩, fun h => hnotFinished (hfinished h), fun h => hnotAborted (haborted h)⟩
  rw [heq, List.getElem?_append] at htask
  split at htask
  · exact htask
  · rw [htasks task (List.mem_of_getElem? htask)] at hwaits
    cases hwaits

theorem waitsFor_of_not_isTimer {task : Spawned} (h : OrchestratorTask.isTimer task = false) :
    task.waitsFor timerId = false := by
  cases task with
  | timer id delayMs => cases h
  | appLaunchedAfter delayMs => rfl
  | fetchBundle userId => rfl

theorem count_timerFired_eq_zero {events : List IncomingEvent}
    (h : ∀ event ∈ events, event.isTimerFired = false) : events.count (.timerFired timerId) = 0 :=
  List.count_eq_zero.mpr fun hmem => by cases h _ hmem

/-- The firings of the timer that may still reach the core. -/
def firingsLeft (timerId : String) (p : Pipeline ε) : ℕ :=
  (p.pending timerId).card + p.queuedFirings timerId

/-- An action other than scheduling the timer leaves no more firings to come. -/
theorem firingsLeft_act {action : CoreAction}
    (h : (TimerMove.act action : TimerMove ε).schedules timerId = false)
    (hstep : p.timerStep E (.act action) = some p') :
    p'.firingsLeft timerId ≤ p.firingsLeft timerId := by
  obtain rfl : _ = p' := Option.some.inj hstep
  unfold firingsLeft
  have hle : ∀ {q : Pipeline ε}, q.pending timerId ⊆ p.pending timerId →
      q.queuedFirings timerId = p.queuedFirings timerId →
      (q.pending timerId).card + q.queuedFirings timerId ≤
        (p.pending timerId).card + p.queuedFirings timerId := fun hpending hqueued =>
    Nat.add_le_add (Finset.card_le_card hpending) hqueued.le
  by_cases hschedule : ∃ id delayMs, action = .scheduleTimer id delayMs
  · obtain ⟨id, delayMs, rfl⟩ := hschedule
    have hid : decide (id = timerId) = false := h
    refine hle (pending_subset ⟨[.timer id delayMs], rfl, ?_⟩ (List.Subset.refl _)
      (List.Subset.refl _)) rfl
    intro task htask
    rw [List.mem_singleton.mp htask]
    exact hid
  by_cases hcancel : ∃ id, action = .cancelTimer id
  · obtain ⟨id, rfl⟩ := hcancel
    cases hrow : p.world.timers.find? id with
    | none =>
      rw [OrchestratorTask.dispatch_cancelTimer_of_none hrow]
    | some row =>
      rw [OrchestratorTask.dispatch_cancelTimer_of_some hrow]
      exact hle (pending_subset ⟨[], (List.append_nil _).symm, nofun⟩ (List.Subset.refl _)
        (List.subset_append_left _ _)) rfl
  · have huntimed := OrchestratorTask.dispatch_untimed (X := E.core) (C := p.config)
      (fun id delayMs h => hschedule ⟨id, delayMs, h⟩) (fun id h => hcancel ⟨id, h⟩) p.world
    obtain ⟨-, haborted, ⟨tasks, hspawned, htasks⟩, events, hself, hevents⟩ := huntimed
    refine hle (pending_subset ⟨tasks, hspawned, fun task htask =>
      waitsFor_of_not_isTimer (htasks task htask)⟩ (List.Subset.refl _)
      (haborted.symm ▸ List.Subset.refl _)) ?_
    unfold queuedFirings
    rw [show _ = _ from hself, List.count_append, count_timerFired_eq_zero hevents, Nat.add_zero]

/-- What the end of a sub-task does. -/
structure Expired (timerId : String) (k : ℕ) (task : Spawned) (p p' : Pipeline ε) : Prop where
  spawned : p.world.spawned[k]? = some task
  notFinished : k ∉ p.finished
  notAborted : k ∉ p.world.aborted
  finished : p'.finished = p.finished ++ [k]
  spawned_eq : p'.world.spawned = p.world.spawned
  aborted_eq : p'.world.aborted = p.world.aborted
  timers_eq : p'.world.timers = p.world.timers
  queued : p'.queuedFirings timerId = p.queuedFirings timerId + (task.waitsFor timerId).toNat

variable (timerId) in
theorem expired_of_step {k : ℕ} {bundle : Except String String}
    (hstep : p.timerStep E (.expire k bundle) = some p') : ∃ task, Expired timerId k task p p' := by
  have hsub : (p.subTaskStep k bundle).map Prod.fst = some p' := hstep
  unfold subTaskStep at hsub
  by_cases hnot : k ∈ p.finished ∨ k ∈ p.world.aborted
  · rw [if_pos hnot] at hsub
    cases hsub
  rw [if_neg hnot] at hsub
  rw [not_or] at hnot
  have hcount (p : Pipeline ε) (event : IncomingEvent) : (p.send event).queuedFirings timerId =
      p.queuedFirings timerId + (decide (event = .timerFired timerId)).toNat := by
    unfold queuedFirings send
    rw [List.count_append, List.count_singleton]
    by_cases h : event = .timerFired timerId <;> simp [h]
  cases htask : p.world.spawned[k]? with
  | none =>
    rw [htask] at hsub
    cases hsub
  | some task =>
    rw [htask] at hsub
    refine ⟨task, ?_⟩
    match task, bundle, hsub with
    | .appLaunchedAfter delayMs, _, hsub =>
      obtain rfl : _ = p' := Option.some.inj hsub
      exact ⟨htask, hnot.1, hnot.2, rfl, rfl, rfl, rfl, hcount _ .appLaunched⟩
    | .timer id delayMs, _, hsub =>
      obtain rfl : _ = p' := Option.some.inj hsub
      refine ⟨htask, hnot.1, hnot.2, rfl, rfl, rfl, rfl, (hcount _ (.timerFired id)).trans ?_⟩
      simp [Spawned.waitsFor, queuedFirings]
    | .fetchBundle userId, .ok bundleJson, hsub =>
      obtain rfl : _ = p' := Option.some.inj hsub
      exact ⟨htask, hnot.1, hnot.2, rfl, rfl, rfl, rfl,
        hcount _ (.keyBundleFetched userId bundleJson)⟩
    | .fetchBundle userId, .error e, hsub =>
      obtain rfl : _ = p' := Option.some.inj hsub
      exact ⟨htask, hnot.1, hnot.2, rfl, rfl, rfl, rfl, rfl⟩

/-- A sub-task that has ended is not pending any more. -/
theorem Expired.pending {k : ℕ} {task : Spawned} (h : Expired timerId k task p p') :
    p'.pending timerId = (p.pending timerId).erase k := by
  ext j
  rw [Finset.mem_erase, mem_pending, mem_pending, h.spawned_eq, h.aborted_eq, h.finished,
    List.mem_append, List.mem_singleton]
  tauto

theorem Expired.mem_pending {k : ℕ} {task : Spawned} (h : Expired timerId k task p p') :
    k ∈ p.pending timerId ↔ task.waitsFor timerId := by
  rw [Pipeline.mem_pending, h.spawned]
  simp [h.notFinished, h.notAborted]

/-- A firing that a sub-task sends was one to come. -/
theorem Expired.firingsLeft {k : ℕ} {task : Spawned} (h : Expired timerId k task p p') :
    p'.firingsLeft timerId = p.firingsLeft timerId := by
  unfold Pipeline.firingsLeft
  rw [h.pending, h.queued]
  by_cases hk : k ∈ p.pending timerId
  · have hcard := Finset.card_erase_add_one hk
    rw [h.mem_pending.mp hk]
    simp only [Bool.toNat_true]
    omega
  · have hwaits : task.waitsFor timerId = false := by
      rwa [h.mem_pending, Bool.not_eq_true] at hk
    rw [Finset.erase_eq_of_notMem hk, hwaits]
    rfl

variable (timerId) in
theorem receive_eq_some (hstep : p.receive E = some p') : ∃ event events,
    p.world.selfTx = event :: events ∧ p'.world.selfTx = events ∧
      p'.pending timerId = p.pending timerId := by
  unfold receive at hstep
  cases hself : p.world.selfTx with
  | nil =>
    rw [hself] at hstep
    cases hstep
  | cons event events =>
    rw [hself] at hstep
    obtain rfl : _ = p' := Option.some.inj hstep
    exact ⟨event, events, rfl, rfl, rfl⟩

/-- A move that does not schedule the timer uses up the firing it hands over, and adds none. -/
theorem timerStep_firings {m : TimerMove ε} (hm : m.schedules timerId = false)
    (hstep : p.timerStep E m = some p') :
    (p.fires timerId m).toNat + p'.firingsLeft timerId ≤ p.firingsLeft timerId := by
  cases m with
  | act action => exact (Nat.zero_add _).le.trans (firingsLeft_act hm hstep)
  | expire k bundle =>
    obtain ⟨task, hexpired⟩ := expired_of_step timerId hstep
    exact (Nat.zero_add _).le.trans hexpired.firingsLeft.le
  | receive =>
    obtain ⟨event, events, hself, hself', hpending⟩ := receive_eq_some timerId hstep
    unfold firingsLeft queuedFirings fires
    rw [hpending, hself, hself', List.count_cons, List.head?_cons]
    by_cases hevent : event = .timerFired timerId
    · simp [hevent]
      omega
    · simp [hevent]
  | send event =>
    unfold timerStep at hstep
    dsimp only at hstep
    split at hstep
    · cases hstep
    · rename_i hnot
      obtain rfl : _ = p' := Option.some.inj hstep
      have hqueued : (p.send event).queuedFirings timerId = p.queuedFirings timerId := by
        unfold queuedFirings send
        have hnone : [event].count (.timerFired timerId) = 0 :=
          count_timerFired_eq_zero (by simpa using hnot)
        rw [List.count_append, hnone, Nat.add_zero]
      have hpending : (p.send event).pending timerId = p.pending timerId := rfl
      unfold firingsLeft
      rw [hqueued, hpending]
      exact (Nat.zero_add _).le
  | elsewhere world =>
    obtain rfl : _ = p' := Option.some.inj hstep
    exact (Nat.zero_add _).le

/-- Until the timer is scheduled again, it fires no more often than sub-tasks are pending and
firings are queued. -/
theorem firings_le {ms : List (TimerMove ε)} (hms : ∀ m ∈ ms, m.schedules timerId = false) :
    p.firings E timerId ms ≤ p.firingsLeft timerId := by
  induction ms generalizing p with
  | nil => exact Nat.zero_le _
  | cons m ms ih =>
    unfold firings
    cases hstep : p.timerStep E m with
    | none => exact Nat.zero_le _
    | some p' =>
      have hrest := ih (p := p') fun m' hm' => hms m' (List.mem_cons_of_mem m hm')
      have hfirst := timerStep_firings (hms m List.mem_cons_self) hstep
      simp only [Option.elim_some]
      omega

theorem exists_expired {k : ℕ} (hk : k ∈ p.pending timerId) :
    ∃ p', p.timerStep E (.expire k (.error "")) = some p' := by
  obtain ⟨⟨task, htask, -⟩, hfinished, haborted⟩ := mem_pending.mp hk
  refine Option.isSome_iff_exists.mp ?_
  show ((p.subTaskStep k (.error "")).map Prod.fst).isSome
  unfold subTaskStep
  rw [if_neg (not_or.mpr ⟨hfinished, haborted⟩), Option.mem_def.mp htask]
  rfl

/-- Receiving all that waits in the channel hands over the firings there. -/
theorem firings_receiveAll : p.firings E timerId
    (List.replicate p.world.selfTx.length .receive) = p.queuedFirings timerId := by
  generalize hself : p.world.selfTx = events
  induction events generalizing p with
  | nil =>
    unfold queuedFirings
    rw [hself]
    rfl
  | cons event events ih =>
    obtain ⟨p', hstep⟩ : ∃ p', p.receive E = some p' := by
      unfold receive
      rw [hself]
      exact ⟨_, rfl⟩
    obtain ⟨event', events', hself', hrest, -⟩ := receive_eq_some timerId hstep
    obtain ⟨rfl, rfl⟩ := List.cons.inj (hself'.symm.trans hself)
    have hstep' : p.timerStep E .receive = some p' := hstep
    rw [List.length_cons, List.replicate_succ, firings, hstep', Option.elim_some, ih hrest]
    unfold queuedFirings fires
    rw [hself, hrest, List.count_cons, List.head?_cons]
    by_cases hevent : event' = .timerFired timerId
    · simp [hevent]
      omega
    · simp [hevent]

variable (timerId) in
/-- All that is to come can come: let every pending sub-task end, and receive what waits. -/
theorem exists_firings_eq (p : Pipeline ε) : ∃ ms : List (TimerMove ε),
    (∀ m ∈ ms, m.schedules timerId = false) ∧
      p.firings E timerId ms = p.firingsLeft timerId := by
  generalize hcard : (p.pending timerId).card = n
  induction n generalizing p with
  | zero =>
    refine ⟨List.replicate p.world.selfTx.length .receive, fun m hm => ?_, ?_⟩
    · rw [List.eq_of_mem_replicate hm]
      rfl
    · rw [firings_receiveAll, firingsLeft, hcard, Nat.zero_add]
  | succ n ih =>
    obtain ⟨k, hk⟩ := Finset.card_pos.mp (by omega : 0 < (p.pending timerId).card)
    obtain ⟨p', hstep⟩ := exists_expired (E := E) hk
    obtain ⟨task, hexpired⟩ := expired_of_step timerId hstep
    have hcard' : (p'.pending timerId).card = n := by
      rw [hexpired.pending, Finset.card_erase_of_mem hk, hcard, Nat.add_sub_cancel]
    obtain ⟨ms, hms, hfirings⟩ := ih p' hcard'
    refine ⟨.expire k (.error "") :: ms, fun m hm => ?_, ?_⟩
    · rcases List.mem_cons.mp hm with rfl | hm
      · rfl
      · exact hms m hm
    · rw [firings, hstep, Option.elim_some, hfirings, hexpired.firingsLeft]
      exact Nat.zero_add _

/-- How often a timer can fire after a move is how many firings the move leaves to come. -/
theorem firesAtMost_iff {n : ℕ} {m : TimerMove ε} : p.FiresAtMost E n timerId m ↔
    ∀ p' ∈ p.timerStep E m, p'.firingsLeft timerId ≤ n := by
  refine forall₂_congr fun p' _ => ⟨fun h => ?_, fun h ms hms => (firings_le hms).trans h⟩
  obtain ⟨ms, hms, hfirings⟩ := exists_firings_eq (E := E) timerId p'
  exact hfirings.ge.trans (h ms hms)

theorem firingsLeft_eq_zero : p.firingsLeft timerId = 0 ↔
    p.queuedFirings timerId = 0 ∧ p.pending timerId = ∅ := by
  unfold firingsLeft
  rw [Nat.add_eq_zero_iff, Finset.card_eq_zero, and_comm]

/-! ### Handles -/

/-- Every handle there is is that of a sub-task that was started. -/
structure Numbered (p : Pipeline ε) : Prop where
  finished : ∀ k ∈ p.finished, k < p.world.spawned.length
  aborted : ∀ k ∈ p.world.aborted, k < p.world.spawned.length
  handles : ∀ row ∈ p.world.timers.rows, row.2 < p.world.spawned.length

theorem Fresh.numbered (h : p.Fresh) : p.Numbered where
  finished k hk := by simp [h.finished] at hk
  aborted k hk := by simp [h.aborted] at hk
  handles row hrow := by simp [h.timers, Table.empty] at hrow

theorem Numbered.act (h : p.Numbered) {action : CoreAction}
    (hstep : p.timerStep E (.act action) = some p') : p'.Numbered := by
  obtain rfl : _ = p' := Option.some.inj hstep
  by_cases hschedule : ∃ id delayMs, action = .scheduleTimer id delayMs
  · obtain ⟨id, delayMs, rfl⟩ := hschedule
    have hlength (k : ℕ) (hk : k < p.world.spawned.length) :
        k < (p.world.spawned ++ [Spawned.timer id delayMs]).length := by
      rw [List.length_append]
      omega
    refine ⟨fun k hk => hlength k (h.finished k hk), fun k hk => hlength k (h.aborted k hk),
      fun row hrow => ?_⟩
    rcases Table.mem_insertOrReplace.mp hrow with ⟨hrow, -⟩ | rfl
    · exact hlength _ (h.handles row hrow)
    · show p.world.spawned.length < (p.world.spawned ++ [Spawned.timer id delayMs]).length
      rw [List.length_append, List.length_singleton]
      omega
  by_cases hcancel : ∃ id, action = .cancelTimer id
  · obtain ⟨id, rfl⟩ := hcancel
    cases hrow : p.world.timers.find? id with
    | none =>
      rw [OrchestratorTask.dispatch_cancelTimer_of_none hrow]
      exact h
    | some row =>
      rw [OrchestratorTask.dispatch_cancelTimer_of_some hrow]
      refine ⟨h.finished, fun k hk => ?_, fun row' hrow' =>
        h.handles row' (Table.mem_deleteWhere.mp hrow').1⟩
      rcases List.mem_append.mp hk with hk | hk
      · exact h.aborted k hk
      · rw [List.mem_singleton.mp hk]
        exact h.handles row (Table.find?_eq_some_iff.mp hrow).1
  · have huntimed := OrchestratorTask.dispatch_untimed (X := E.core) (C := p.config)
      (fun id delayMs h => hschedule ⟨id, delayMs, h⟩) (fun id h => hcancel ⟨id, h⟩) p.world
    obtain ⟨htimers, haborted, ⟨tasks, hspawned, -⟩, -⟩ := huntimed
    have hlength (k : ℕ) (hk : k < p.world.spawned.length) :
        k < ((OrchestratorTask.dispatch E.core p.config action).run p.world).2.spawned.length := by
      rw [hspawned, List.length_append]
      omega
    exact ⟨fun k hk => hlength k (h.finished k hk),
      fun k hk => hlength k (h.aborted k (haborted ▸ hk)),
      fun row hrow => hlength _ (h.handles row (htimers ▸ hrow))⟩

/-- Every move keeps the handles in order. -/
theorem Numbered.next (h : p.Numbered) {m : TimerMove ε} (hstep : p.timerStep E m = some p') :
    p'.Numbered := by
  cases m with
  | act action => exact h.act hstep
  | expire k bundle =>
    obtain ⟨task, hexpired⟩ := expired_of_step "" hstep
    obtain ⟨hk, -⟩ := List.getElem?_eq_some_iff.mp hexpired.spawned
    refine ⟨fun j hj => ?_, fun j hj => ?_, fun row hrow => ?_⟩
    · rw [hexpired.finished, List.mem_append, List.mem_singleton] at hj
      rw [hexpired.spawned_eq]
      rcases hj with hj | rfl
      · exact h.finished j hj
      · exact hk
    · rw [hexpired.spawned_eq]
      exact h.aborted j (hexpired.aborted_eq ▸ hj)
    · rw [hexpired.spawned_eq]
      exact h.handles row (hexpired.timers_eq ▸ hrow)
  | receive =>
    have hreceive : p.receive E = some p' := hstep
    unfold receive at hreceive
    split at hreceive
    · cases hreceive
    · obtain rfl : _ = p' := Option.some.inj hreceive
      exact ⟨h.finished, h.aborted, h.handles⟩
  | send event =>
    unfold timerStep at hstep
    dsimp only at hstep
    split at hstep
    · cases hstep
    · obtain rfl : _ = p' := Option.some.inj hstep
      exact ⟨h.finished, h.aborted, h.handles⟩
  | elsewhere world =>
    obtain rfl : _ = p' := Option.some.inj hstep
    exact ⟨h.finished, h.aborted, h.handles⟩

theorem Numbered.length_notMem_pending : p.world.spawned.length ∉ p.pending timerId := fun h => by
  simpa using (Finset.mem_filter.mp h).1

/-- A sub-task that ends while a timer is being scheduled might as well end after that. -/
theorem expire_while_scheduling (k : ℕ) (bundle : Except String String) (id : String)
    (delayMs : UInt64) (p : Pipeline ε) :
    (timerStep E { p with world := ((OrchestratorTask.spawn (.timer id delayMs)).run p.world).2 }
      (.expire k bundle)).map (fun q => { q with
        world := ((OrchestratorTask.insertTimer id p.world.spawned.length).run q.world).2 }) =
    (p.timerStep E (.act (.scheduleTimer id delayMs))).bind fun q =>
      q.timerStep E (.expire k bundle) := by
  rw [timerStep, timerStep, Option.bind_some, timerStep, subTaskStep, subTaskStep,
    OrchestratorTask.dispatch_scheduleTimer]
  dsimp only [OrchestratorTask.spawn, Prog.run_act]
  by_cases hnot : k ∈ p.finished ∨ k ∈ p.world.aborted
  · simp only [hnot, ↓reduceIte]
    rfl
  simp only [hnot, ↓reduceIte]
  cases (p.world.spawned ++ [Spawned.timer id delayMs])[k]? with
  | none => rfl
  | some task =>
    match task, bundle with
    | .appLaunchedAfter _, _ | .timer _ _, _ => rfl
    | .fetchBundle _, .ok _ | .fetchBundle _, .error _ => rfl

/-! ### When the law holds -/

/-- Scheduling a timer adds one firing to those to come. -/
theorem firingsLeft_scheduleTimer (h : p.Numbered) {delayMs : UInt64}
    (hstep : p.timerStep E (.act (.scheduleTimer timerId delayMs)) = some p') :
    p'.firingsLeft timerId = p.firingsLeft timerId + 1 := by
  obtain rfl : _ = p' := Option.some.inj hstep
  have hpending : Pipeline.pending timerId { p with world :=
      ((OrchestratorTask.dispatch E.core p.config (.scheduleTimer timerId delayMs)).run
        p.world).2 } = insert p.world.spawned.length (p.pending timerId) := by
    ext k
    rw [OrchestratorTask.dispatch_scheduleTimer, Finset.mem_insert, mem_pending, mem_pending,
      List.getElem?_append]
    by_cases hk : k < p.world.spawned.length
    · simp only [if_pos hk, hk.ne, false_or]
    rw [if_neg hk, List.getElem?_eq_none (by omega : p.world.spawned.length ≤ k)]
    have hnotFinished : k ∉ p.finished := fun h' => hk (h.finished k h')
    have hnotAborted : k ∉ p.world.aborted := fun h' => hk (h.aborted k h')
    by_cases hnew : k = p.world.spawned.length
    · subst hnew
      simp [hnotFinished, hnotAborted, Spawned.waitsFor]
    · have hpast : 0 < k - p.world.spawned.length := by omega
      simp [hnew, hpast.ne']
  unfold firingsLeft
  rw [hpending, Finset.card_insert_of_notMem Numbered.length_notMem_pending]
  show _ + 1 + p.queuedFirings timerId = _
  omega

/-- Cancelling a timer leaves a firing to come unless none is queued, and the only sub-task that is
pending is the one that the task has the handle of. -/
theorem firingsLeft_cancelTimer_eq_zero
    (hstep : p.timerStep E (.act (.cancelTimer timerId)) = some p') :
    p'.firingsLeft timerId = 0 ↔ p.queuedFirings timerId = 0 ∧
      ∀ k ∈ p.pending timerId, p.world.timers.find? timerId = some (timerId, k) := by
  obtain rfl : _ = p' := Option.some.inj hstep
  rw [firingsLeft_eq_zero]
  cases hrow : p.world.timers.find? timerId with
  | none =>
    rw [OrchestratorTask.dispatch_cancelTimer_of_none hrow]
    refine and_congr_right fun _ => Finset.eq_empty_iff_forall_notMem.trans ?_
    exact forall₂_congr fun k _ => (iff_of_false id nofun)
  | some row =>
    obtain ⟨id, handle⟩ := row
    obtain ⟨-, rfl⟩ := Table.find?_eq_some_iff.mp hrow
    rw [OrchestratorTask.dispatch_cancelTimer_of_some hrow]
    refine and_congr_right fun _ => Finset.eq_empty_iff_forall_notMem.trans ?_
    refine forall_congr' fun k => ?_
    -- the sub-task that is aborted is pending no more
    have haborted : k ∈ Pipeline.pending id { p with world := { p.world with
        timers := p.world.timers.deleteWhere fun r => r.1 = id
        aborted := p.world.aborted ++ [handle] } } ↔ k ∈ p.pending id ∧ k ≠ handle := by
      rw [mem_pending, mem_pending, List.mem_append, List.mem_singleton, not_or, and_assoc,
        and_assoc]
    refine (not_congr haborted).trans ?_
    rw [not_and, not_not]
    exact imp_congr_right fun _ =>
      ⟨fun hk => by rw [hk], fun hk => (Prod.mk.inj (Option.some.inj hk)).2.symm⟩

/-- **The law of the timers.** After any run, it holds of a move exactly when no firing of the timer
is queued, and no sub-task is pending that the task has no handle of, or is about to lose the handle
of. -/
theorem timersLawful_iff {p₀ p : Pipeline ε} (h₀ : p₀.Fresh) {past : List (TimerMove ε)}
    (hpast : Run.after (timerStep E) p₀ past = some p) (m : TimerMove ε) :
    p.TimersLawful E m ↔ p.TimersClear m := by
  have hnumbered : p.Numbered :=
    Run.invariant (fun _ _ _ h hstep => h.next hstep) h₀.numbered hpast
  unfold TimersLawful TimersClear
  split
  · rename_i timerId
    rw [firesAtMost_iff]
    constructor
    · intro h
      exact (firingsLeft_cancelTimer_eq_zero rfl).mp (Nat.le_zero.mp (h _ rfl))
    · intro h p' hp'
      exact ((firingsLeft_cancelTimer_eq_zero hp').mpr h).le
  · rename_i timerId delayMs
    rw [firesAtMost_iff, ← firingsLeft_eq_zero]
    constructor
    · intro h
      have hnext := h _ rfl
      rw [firingsLeft_scheduleTimer hnumbered rfl] at hnext
      omega
    · intro h p' hp'
      rw [firingsLeft_scheduleTimer hnumbered hp', h]
  · exact Iff.rfl

/-! ### Firings that come all the same -/

/-- The pipelines that the app spawns have neither timers nor sub-tasks. -/
theorem fresh_newPipeline (ans : Answers ε) (userId deviceId : String) (contactIds : List String)
    (identitySecret : Bytes) (core : ε) (db : Storage) :
    (App.newPipeline E ans userId deviceId contactIds identitySecret core db).Fresh :=
  ⟨rfl, rfl, rfl, rfl⟩

/-- A pipeline in quiet surroundings. -/
def quiet : Pipeline Unit := App.newPipeline .quiet .quiet "me" "phone" [] [] () .init

/-- Whoever cancels a timer once its firing is queued gets the firing, and whoever schedules a timer
while it is pending gets two. -/
theorem timers_unlawful :
    (¬∀ past p, Run.after (timerStep .quiet) quiet past = some p →
      p.TimersLawful .quiet (.act (.cancelTimer "retry"))) ∧
    ¬∀ past p, Run.after (timerStep .quiet) quiet past = some p →
      p.TimersLawful .quiet (.act (.scheduleTimer "retry" 5)) := by
  constructor
  · intro h
    have hfires := h [.act (.scheduleTimer "retry" 5), .expire 0 (.error "")] _ rfl _ rfl
      [.receive, .receive] (by decide)
    exact absurd hfires (by decide)
  · intro h
    have hfires := h [.act (.scheduleTimer "retry" 5)] _ rfl _ rfl
      [.expire 0 (.error ""), .expire 1 (.error ""), .receive, .receive, .receive] (by decide)
    exact absurd hfires (by decide)

/-- In quiet surroundings a timer that is scheduled once, and cancelled before it expires, does not
fire. -/
theorem timersLawful_iff_quiet :
    (Run.ending (timerStep .quiet) quiet [.act (.scheduleTimer "retry" 5)]).TimersLawful .quiet
      (.act (.cancelTimer "retry")) :=
  (timersLawful_iff (fresh_newPipeline _ _ _ _ _ _ _)
    (Run.after_ending_nil (by decide)) _).mpr ⟨by decide, by decide⟩

end Pipeline

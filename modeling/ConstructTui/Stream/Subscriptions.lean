import ConstructTui.Stream.Reconnection

/-!
# What the server is asked for

The worker takes a new contact list in three places: at the head of its loop, while it sleeps, and
while its stream is live. Wherever it does, the list replaces the one before at once, and the server
hears of it on the live stream or when the next one is opened. Meanwhile the task moves the
watermark in memory, and an attempt asks for what comes after it.

## Main definitions

* `StreamWorker.Tracked`: a worker beside the watermark in memory.
* `StreamWorker.latest`: the last contact list consumed in a run.
* `StreamWorker.Worker.asked`: what the attempts of a worker asked for.
* `StreamWorker.Tracked.NextAsks`: what the next attempt will ask for.

## Main results

* `StreamWorker.step_asking`: what a step does to the contact list and to what was asked for.
* `StreamWorker.Tracked.subscribedUsers_after`: the worker holds the last list consumed.
* `StreamWorker.Tracked.asked_latest`: the server is always asked for the last list consumed.
-/

namespace StreamWorker

/-- The contact list that a command carries. -/
def listOf : Option StreamCmd → Option (List String)
  | some (.subscribe ids _) => some ids
  | _ => none

/-- The contact list that an answer brings. -/
def Answer.subscribes : Answer → Option (List String)
  | .polled (.command cmd) => listOf (some cmd)
  | .received cmd _ => listOf cmd
  | _ => none

/-- What an attempt that starts with this answer asks for. -/
def Answer.asks (ids : List String) : Answer → List (List String × Option String)
  | .invalidated since => [(ids, since)]
  | _ => []

/-- The list and the watermark that an attempt asked with. -/
def Obs.asked : Obs → Option (List String × Option String)
  | .opening ids since => some (ids, since)
  | _ => none

namespace Worker

/-- What the attempts of a worker asked for, in order. -/
def asked (w : Worker) : List (List String × Option String) := w.history.filterMap Obs.asked

/-! ### The parts of a step -/

/-- The worker holds the contact list `ids` and has asked for `asked`. -/
def Asking (w : Worker) (ids : List String) (asked : List (List String × Option String)) : Prop :=
  w.subscribedUsers = ids ∧ w.asked = asked

variable {w : Worker} {ids : List String} {asked : List (List String × Option String)}

theorem Asking.goto (h : w.Asking ids asked) (phase : Phase) : (w.goto phase).Asking ids asked := h

theorem Asking.exit (h : w.Asking ids asked) : w.exit.Asking ids asked := h

theorem Asking.serve (h : w.Asking ids asked) (ok : Bool) : (w.serve ok).Asking ids asked := by
  cases ok <;> exact h

/-- A step that asks for nothing. -/
theorem Asking.idle (h : w.Asking ids asked) : w.Asking ids (asked ++ []) := by
  rwa [List.append_nil]

/-- Observations of other kinds ask for nothing. -/
theorem Asking.record (h : w.Asking ids asked) {obs : List Obs}
    (hobs : obs.filterMap Obs.asked = []) : (w.record obs).Asking ids asked := by
  refine ⟨h.1, ?_⟩
  have happend : (w.record obs).asked = w.asked ++ obs.filterMap Obs.asked :=
    List.filterMap_append
  rw [happend, hobs, List.append_nil]
  exact h.2

theorem Asking.enqueue (h : w.Asking ids asked) (envelope : Envelope) :
    (w.enqueue envelope).Asking ids asked := by
  have hpending : { w with pending := pushPending w.pending envelope }.Asking ids asked := h
  refine hpending.record ?_
  rw [List.filterMap_map]
  exact List.filterMap_none _

theorem Asking.flush (h : w.Asking ids asked) : w.flush.Asking ids asked := by
  unfold Worker.flush
  cases w.pending <;> exact h

/-- A contact list replaces the one before. -/
theorem Asking.subscribe (h : w.Asking ids asked) (ids' : List String) :
    { w with subscribedUsers := ids' }.Asking ids' asked := ⟨rfl, h.2⟩

/-- An attempt asks for the list the worker holds. -/
theorem Asking.openFrom (h : w.Asking ids asked) (since : Option String) :
    (w.openFrom since).Asking ids (asked ++ [(ids, since)]) := by
  refine ⟨h.1, ?_⟩
  have happend : (w.openFrom since).asked = w.asked ++ [(w.subscribedUsers, since)] :=
    List.filterMap_append
  rw [happend, h.1, h.2]

end Worker

/-! ### Steps -/

variable {w w' : Worker} {answer : Answer} {ids : List String}
  {asked : List (List String × Option String)}

/-- A command taken while no stream is open. -/
theorem asking_absorb (h : w.Asking ids asked) (next : Phase) (cmd : Option StreamCmd) :
    (w.absorb next cmd).Asking ((listOf cmd).getD ids) asked := by
  match cmd with
  | none | some .shutdown | some .close => exact h.exit
  | some (.send envelope) =>
    have hconsumed : (w.record [.consumed envelope]).Asking ids asked := h.record rfl
    exact (hconsumed.enqueue envelope).goto next
  | some (.subscribe ids' _) => exact (h.subscribe ids').goto next

/-- A command taken from the channel of a live stream. -/
theorem asking_command (h : w.Asking ids asked) (ok : Bool) (cmd : Option StreamCmd) :
    (w.command ok cmd).Asking ((listOf cmd).getD ids) asked := by
  match cmd with
  | none | some .shutdown | some .close => exact h.exit
  | some (.send envelope) =>
    have hconsumed : (w.record [.consumed envelope]).Asking ids asked := h.record rfl
    cases ok with
    | true =>
      have hhanded : ((w.record [.consumed envelope]).record [.handed envelope]).Asking ids asked :=
        hconsumed.record rfl
      exact hhanded.serve true
    | false => exact (hconsumed.enqueue envelope).serve false
  | some (.subscribe ids' cursor) =>
    have hsent :
        ({ w with subscribedUsers := ids' }.record [.subscribed ids' cursor ok]).Asking ids'
        asked := (h.subscribe ids').record rfl
    exact hsent.serve ok

/-- A step takes the list its answer brings, and an attempt asks for the list the worker held. -/
theorem step_asking (hw : w.Asking ids asked) (h : step w answer = some w') :
    w'.Asking (answer.subscribes.getD ids) (asked ++ answer.asks ids) := by
  unfold step at h
  split at h <;> try cases h
  case h_1 => exact (hw.goto _).idle
  case h_2 => exact hw.exit.idle
  case h_3 cmd _ => exact (asking_absorb hw .invalidating (some cmd)).idle
  case h_4 since _ => exact hw.openFrom since
  case h_5 result _ =>
    cases result with
    | opened => exact hw.flush.idle
    | unauthenticated | failed => exact (hw.goto .backingOff).idle
  case h_6 ok _ =>
    split at h <;> cases h
    rename_i envelope rest _
    have hrest : { w with pending := rest }.Asking ids asked := hw
    cases ok with
    | true =>
      have hhanded : ({ w with pending := rest }.record [.handed envelope]).Asking ids asked :=
        hrest.record rfl
      exact hhanded.flush.idle
    | false =>
      have hlost : ({ w with pending := rest }.record [.lost envelope]).Asking ids asked :=
        hrest.record rfl
      exact hlost.idle
  case h_7 ok _ => exact (hw.serve ok).idle
  case h_8 ok _ => exact (hw.serve ok).idle
  case h_9 cmd ok _ => exact (asking_command hw ok cmd).idle
  case h_10 frame _ =>
    cases frame with
    | none => exact (hw.serve false).idle
    | some frame => exact hw.idle
  case h_11 delayMs _ =>
    split at h <;> cases h
    have hrecorded : (w.record [.reconnecting delayMs]).Asking ids asked := hw.record rfl
    exact hrecorded.idle
  case h_12 =>
    have hrecorded : (w.record [.elapsed]).Asking ids asked := hw.record rfl
    exact hrecorded.idle
  case h_13 cmd _ _ => exact (asking_absorb hw .loopHead cmd).idle

/-! ### Runs -/

/-- A worker beside the watermark in memory. -/
structure Tracked where
  worker : Worker
  committed : Option String

/-- The task moves the watermark, or the worker gets an answer. -/
inductive Move
  | commit (committed : Option String)
  | answer (answer : Answer)

/-- The contact list that a move brings. -/
def Move.subscribes : Move → Option (List String)
  | .commit _ => none
  | .answer answer => answer.subscribes

/-- An attempt reads the watermark as it starts. -/
def Answer.readsFrom (committed : Option String) : Answer → Bool
  | .invalidated since => since = committed
  | _ => true

namespace Tracked

def start (ids : List String) (committed : Option String) : Tracked := ⟨.start ids, committed⟩

def step (t : Tracked) : Move → Option Tracked
  | .commit committed => some { t with committed := committed }
  | .answer answer =>
    if answer.readsFrom t.committed then
      (StreamWorker.step t.worker answer).map fun worker => { t with worker := worker }
    else none

end Tracked

/-- The last contact list that was consumed, or the one the worker started with. -/
def latest (ids : List String) (moves : List Move) : List String :=
  moves.foldl (fun ids move => move.subscribes.getD ids) ids

theorem latest_append (ids : List String) (moves mid : List Move) :
    latest ids (moves ++ mid) = latest (latest ids moves) mid := List.foldl_append

/-- Moves that bring no list leave the last one in place. -/
theorem latest_of_none (ids : List String) {moves : List Move}
    (h : ∀ move ∈ moves, move.subscribes = none) : latest ids moves = ids := by
  induction moves with
  | nil => rfl
  | cons move moves ih =>
    obtain ⟨hmove, hmoves⟩ := List.forall_mem_cons.mp h
    rw [latest, List.foldl_cons, hmove]
    exact ih hmoves

/-- The move is the start of an attempt. -/
def Move.opens : Move → Bool
  | .answer (.invalidated _) => true
  | _ => false

namespace Tracked

variable {t t' : Tracked} {move : Move} {moves : List Move} {committed : Option String}

/-- The worker gets its answer, and the watermark stays. -/
theorem step_answer {answer : Answer} (h : t.step (.answer answer) = some t') :
    answer.readsFrom t.committed = true ∧ ∃ worker,
      StreamWorker.step t.worker answer = some worker ∧ t' = { t with worker := worker } := by
  unfold step at h
  obtain ⟨hreads, h⟩ := Option.ite_none_right_eq_some.mp h
  obtain ⟨worker, hworker, rfl⟩ := Option.map_eq_some_iff.mp h
  exact ⟨hreads, worker, hworker, rfl⟩

/-- What a move does to the worker's list and to what was asked for. -/
theorem step_subscribed (h : t.step move = some t') :
    t'.worker.subscribedUsers = move.subscribes.getD t.worker.subscribedUsers ∧
      t'.worker.asked = t.worker.asked ++
        if move.opens then [(t.worker.subscribedUsers, t.committed)] else [] := by
  cases move with
  | commit committed =>
    obtain rfl := Option.some.inj h
    exact ⟨rfl, (List.append_nil _).symm⟩
  | answer answer =>
    obtain ⟨hreads, worker, hworker, rfl⟩ := step_answer h
    obtain ⟨husers, hasked⟩ := step_asking ⟨rfl, rfl⟩ hworker
    refine ⟨husers, hasked.trans ?_⟩
    cases answer with
    | invalidated since =>
      obtain rfl : since = t.committed := of_decide_eq_true hreads
      rfl
    | polled _ | openEnded _ | sendEnded _ | ticked _ | received _ _ | incoming _ | delayDrawn _
    | elapsed => rfl

/-- After any run the worker holds the last list it consumed. -/
theorem subscribedUsers_after (h : Run.after step t moves = some t') :
    t'.worker.subscribedUsers = latest t.worker.subscribedUsers moves := by
  induction moves generalizing t with
  | nil => exact congrArg (·.worker.subscribedUsers) (Option.some.inj h).symm
  | cons move moves ih =>
    obtain ⟨u, hu, h⟩ := Run.after_cons h
    rw [ih h, (step_subscribed hu).1]
    rfl

/-- The next attempt asks for these ids, unless another list is consumed before it. -/
def NextAsks (t : Tracked) (ids : List String) : Prop :=
  ∀ mid attempt u u', Run.after step t mid = some u → (∀ move ∈ mid, move.subscribes = none) →
    attempt.opens = true → u.step attempt = some u' →
    u'.worker.asked = u.worker.asked ++ [(ids, u.committed)]

theorem nextAsks (t : Tracked) : t.NextAsks t.worker.subscribedUsers := by
  intro mid attempt u u' hu hmid hopens hu'
  rw [(step_subscribed hu').2, hopens, subscribedUsers_after hu, latest_of_none _ hmid]
  rfl

/-- A list that is consumed while the stream is live is sent on it; if that fails, the stream is
torn down. -/
theorem step_subscribe_live {ids : List String} {cursor : Option String} {ok : Bool}
    (hphase : t.worker.phase = .live)
    (h : t.step (.answer (.received (some (.subscribe ids cursor)) ok)) = some t') :
    t'.worker.history = t.worker.history ++ [.subscribed ids cursor ok] ∧
      t'.worker.phase = if ok then .live else .backingOff := by
  obtain ⟨-, worker, hworker, rfl⟩ := step_answer h
  unfold StreamWorker.step at hworker
  rw [hphase] at hworker
  obtain rfl := Option.some.inj hworker
  cases ok <;> exact ⟨rfl, rfl⟩

/-- **The server is always asked for the last contact list consumed.** Every attempt asks for it,
from the watermark of that moment. A list that is consumed while the stream is live goes out on it
with exactly its ids, or the stream is torn down and the next one asks for them. -/
theorem asked_latest {ids : List String} {committed : Option String} {pre : List Move}
    (h : Run.after step (start ids committed) pre = some t) (hmove : t.step move = some t') :
    t'.worker.subscribedUsers = latest ids (pre ++ [move]) ∧
      (t'.worker.asked = t.worker.asked ++
        if move.opens then [(latest ids pre, t.committed)] else []) ∧
      ∀ ids' cursor ok, t.worker.phase = .live →
        move = .answer (.received (some (.subscribe ids' cursor)) ok) →
        t'.worker.history = t.worker.history ++ [.subscribed ids' cursor ok] ∧
          (t'.worker.phase = if ok then .live else .backingOff) ∧ t'.NextAsks ids' := by
  have hheld : t.worker.subscribedUsers = latest ids pre := subscribedUsers_after h
  obtain ⟨husers, hasked⟩ := step_subscribed hmove
  rw [hheld] at husers hasked
  refine ⟨?_, hasked, ?_⟩
  · rw [husers, latest_append]
    rfl
  · rintro ids' cursor ok hphase rfl
    obtain ⟨hhistory, hnext⟩ := step_subscribe_live hphase hmove
    have hasks := t'.nextAsks
    rw [husers] at hasks
    exact ⟨hhistory, hnext, hasks⟩

/-- A worker comes to a live stream. -/
def untilLive : List Move :=
  [.answer (.polled .empty), .commit (some "c1"), .answer (.invalidated (some "c1")),
    .answer (.openEnded .opened), .answer (.sendEnded true)]

/-- The new list does not reach the server, and the next attempt asks for it. -/
theorem asked_latest_torn : ∃ t t', Run.after step (start ["bob"] none) untilLive = some t ∧
    t.step (.answer (.received (some (.subscribe ["bob", "eve"] none)) false)) = some t' ∧
    t'.worker.phase = .backingOff ∧ t'.NextAsks ["bob", "eve"] := by
  have h : Run.after step (start ["bob"] none) untilLive = some _ := rfl
  have hmove : step (Run.ending step (start ["bob"] none) untilLive)
      (.answer (.received (some (.subscribe ["bob", "eve"] none)) false)) = some _ := rfl
  obtain ⟨-, hphase, hasks⟩ := (asked_latest h hmove).2.2 _ _ _ rfl rfl
  exact ⟨_, _, h, hmove, hphase, hasks⟩

end Tracked

end StreamWorker

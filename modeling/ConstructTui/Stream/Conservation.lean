import ConstructTui.Lib.Ledger
import ConstructTui.Stream.Worker

/-!
# Outgoing envelopes of the stream worker

Every envelope the worker consumes is handed to the stream, waits in the queue, or was dropped from
a full queue, and the order of consumption is kept: the worker's history is a ledger, and each of
its steps is a move of that ledger. One step loses an envelope: the flush takes an envelope off the
queue before it sends it, and does not put it back when the send fails. The account of a run is
complete exactly when no send of a flush failed.

## Main definitions

* `StreamWorker.Worker.ledger`, `StreamWorker.Worker.Conserved`.
* `StreamWorker.LosesEnvelope`: the send of a flush fails.

## Main results

* `StreamWorker.step_effect`: what a step does to the ledger.
* `StreamWorker.conserved_iff`: the account is complete exactly after the runs without such a step.
* `StreamWorker.flush_failure_loses`: a run with one.
-/

namespace StreamWorker

/-- The places an envelope of the history can be in. -/
inductive Place
  | consumed
  | handed
  | evicted
  | lost
  deriving DecidableEq

/-- The envelope an observation puts into a place. -/
def Obs.envelopeAt : Place → Obs → Option Envelope
  | .consumed, .consumed envelope => some envelope
  | .handed, .handed envelope => some envelope
  | .evicted, .evicted envelope => some envelope
  | .lost, .lost envelope => some envelope
  | _, _ => none

namespace Worker

/-- The envelopes that went to a place, in order. -/
def envelopes (w : Worker) (place : Place) : List Envelope :=
  w.history.filterMap (Obs.envelopeAt place)

/-- The account of the envelopes a worker has consumed. -/
def ledger (w : Worker) : Ledger Envelope where
  consumed := w.envelopes .consumed
  handed := w.envelopes .handed
  waiting := w.pending
  evicted := w.envelopes .evicted
  lost := w.envelopes .lost

/-- Every consumed envelope was handed over, waits or was evicted, none of them twice; what was
handed over and what waits are in the order of consumption. -/
def Conserved (w : Worker) : Prop :=
  (w.envelopes .consumed).Perm (w.envelopes .handed ++ w.pending ++ w.envelopes .evicted) ∧
    (w.envelopes .handed ++ w.pending).Sublist (w.envelopes .consumed)

instance (w : Worker) : Decidable w.Conserved := inferInstanceAs (Decidable (_ ∧ _))

/-- The queue is empty while the stream is connected. -/
def Drained (w : Worker) : Prop := w.phase = .greeting ∨ w.phase = .live → w.pending = []

theorem drained_of_phase {w : Worker} (h : w.phase ≠ .greeting ∧ w.phase ≠ .live) : w.Drained :=
  fun hphase => (hphase.elim h.1 h.2).elim

/-! ### What the parts of a step do to the ledger -/

@[simp] theorem ledger_goto (w : Worker) (phase : Phase) : (w.goto phase).ledger = w.ledger := rfl

@[simp] theorem ledger_emit (w : Worker) (event : StreamEvent) :
    (w.emit event).ledger = w.ledger := rfl

@[simp] theorem envelopes_record (w : Worker) (obs : List Obs) (place : Place) :
    (w.record obs).envelopes place = w.envelopes place ++ obs.filterMap (Obs.envelopeAt place) :=
  List.filterMap_append

theorem pushPending_eq (pending : List Envelope) (envelope : Envelope) :
    pushPending pending envelope = Ledger.push outgoingBufferCap pending envelope := rfl

theorem evictedBy_eq (pending : List Envelope) :
    evictedBy pending = Ledger.dropped outgoingBufferCap pending := rfl

/-- Observations about the stream itself put no envelope anywhere. -/
theorem ledger_record {w : Worker} {obs : List Obs}
    (h : ∀ place, obs.filterMap (Obs.envelopeAt place) = []) :
    (w.record obs).ledger = w.ledger := by
  unfold ledger
  simp only [envelopes_record, h, List.append_nil]
  rfl

theorem filterMap_evicted (place : Place) (envelopes : List Envelope) :
    (envelopes.map Obs.evicted).filterMap (Obs.envelopeAt place) =
      if place = .evicted then envelopes else [] := by
  induction envelopes with
  | nil => cases place <;> rfl
  | cons envelope envelopes ih => cases place <;> simp_all [Obs.envelopeAt]

/-- A consumed envelope that is queued starts to wait. -/
theorem ledger_enqueue (w : Worker) (envelope : Envelope) :
    ((w.record [.consumed envelope]).enqueue envelope).ledger =
      w.ledger.take outgoingBufferCap envelope := by
  have hput (place : Place) : ((w.record [.consumed envelope]).enqueue envelope).envelopes place =
      w.envelopes place ++ [Obs.consumed envelope].filterMap (Obs.envelopeAt place) ++
        if place = .evicted then evictedBy w.pending else [] := by
    rw [enqueue, envelopes_record, filterMap_evicted]
    exact congrArg (· ++ _) (envelopes_record w [.consumed envelope] place)
  unfold ledger
  simp only [hput]
  simp [Ledger.take, Obs.envelopeAt, enqueue, record, pushPending_eq, evictedBy_eq]

theorem ledger_pass (w : Worker) (envelope : Envelope) :
    ((w.record [.consumed envelope]).record [.handed envelope]).ledger =
      w.ledger.pass envelope := by
  unfold ledger Ledger.pass
  simp only [envelopes_record]
  simp [record, Obs.envelopeAt]

theorem ledger_hand (w : Worker) (envelope : Envelope) (rest : List Envelope) :
    ({ w with pending := rest }.record [.handed envelope]).ledger =
      w.ledger.hand envelope rest := by
  unfold ledger Ledger.hand
  simp only [envelopes_record]
  simp [envelopes, record, Obs.envelopeAt]

theorem ledger_lose (w : Worker) (envelope : Envelope) (rest : List Envelope) :
    ({ w with pending := rest }.record [.lost envelope]).ledger =
      w.ledger.lose envelope rest := by
  unfold ledger Ledger.lose
  simp only [envelopes_record]
  simp [envelopes, record, Obs.envelopeAt]

@[simp] theorem ledger_connect (w : Worker) : w.connect.ledger = w.ledger := rfl

@[simp] theorem ledger_flush (w : Worker) : w.flush.ledger = w.ledger := by
  unfold flush
  cases w.pending <;> rfl

@[simp] theorem ledger_serve (w : Worker) (ok : Bool) : (w.serve ok).ledger = w.ledger := by
  cases ok <;> rfl

/-- The worker connects only once the queue is empty. -/
theorem drained_flush (w : Worker) : w.flush.Drained := by
  unfold flush
  cases h : w.pending with
  | nil => exact fun _ => h
  | cons envelope rest => exact drained_of_phase ⟨by simp [goto], by simp [goto]⟩

theorem phase_flush (w : Worker) : w.flush.phase ≠ .live := by
  unfold flush
  cases w.pending <;> rintro ⟨⟩

theorem drained_serve {w : Worker} (ok : Bool) (h : w.pending = []) : (w.serve ok).Drained := by
  cases ok <;> exact fun _ => h

end Worker

/-! ### Steps -/

/-- The answer is the failure of a send of the flush. -/
def LosesEnvelope (w : Worker) (answer : Answer) : Prop :=
  w.phase = .flushing ∧ answer = .sendEnded false

instance (w : Worker) (answer : Answer) : Decidable (LosesEnvelope w answer) :=
  inferInstanceAs (Decidable (_ ∧ _))

/-- What a step does to the ledger: nothing, or one move of one envelope. Only a live stream passes
an envelope on at once, and only the failure of a flush loses one. -/
inductive StepEffect (w : Worker) (answer : Answer) (w' : Worker) : Prop
  | idle (hledger : w'.ledger = w.ledger) (hdrained : w.Drained → w'.Drained)
      (hkept : ¬LosesEnvelope w answer)
  | take (envelope : Envelope) (hledger : w'.ledger = w.ledger.take outgoingBufferCap envelope)
      (hdrained : w'.Drained) (hkept : ¬LosesEnvelope w answer)
  | pass (envelope : Envelope) (hledger : w'.ledger = w.ledger.pass envelope)
      (hphase : w.phase = .live) (hkept : ¬LosesEnvelope w answer)
  | hand (envelope : Envelope) (rest : List Envelope) (hpending : w.pending = envelope :: rest)
      (hledger : w'.ledger = w.ledger.hand envelope rest) (hdrained : w'.Drained)
      (hkept : ¬LosesEnvelope w answer)
  | lose (envelope : Envelope) (rest : List Envelope) (hpending : w.pending = envelope :: rest)
      (hledger : w'.ledger = w.ledger.lose envelope rest) (hlost : LosesEnvelope w answer)

theorem not_loses_of_phase {w : Worker} {answer : Answer} (h : w.phase ≠ .flushing) :
    ¬LosesEnvelope w answer := fun hl => h hl.1

theorem exit_effect {w : Worker} {answer : Answer} (hkept : ¬LosesEnvelope w answer) :
    StepEffect w answer w.exit :=
  .idle rfl (fun _ => Worker.drained_of_phase ⟨by simp [Worker.exit, Worker.goto],
    by simp [Worker.exit, Worker.goto]⟩) hkept

/-- A command taken while no stream is open queues its envelope, if it has one. -/
theorem absorb_effect {w : Worker} {answer : Answer} {next : Phase}
    (hphase : w.phase ≠ .flushing) (hnext : next ≠ .greeting ∧ next ≠ .live)
    (cmd : Option StreamCmd) : StepEffect w answer (w.absorb next cmd) := by
  have hkept : ¬LosesEnvelope w answer := not_loses_of_phase hphase
  match cmd with
  | none | some .shutdown | some .close => exact exit_effect hkept
  | some (.send envelope) =>
    exact .take envelope (Worker.ledger_enqueue w envelope) (Worker.drained_of_phase hnext) hkept
  | some (.subscribe ids _) =>
    exact .idle rfl (fun _ => Worker.drained_of_phase hnext) hkept

/-- A command taken from a live stream passes its envelope on, or queues it when that fails. -/
theorem command_effect {w : Worker} {answer : Answer} (hphase : w.phase = .live) (ok : Bool)
    (cmd : Option StreamCmd) : StepEffect w answer (w.command ok cmd) := by
  have hkept : ¬LosesEnvelope w answer := not_loses_of_phase (by simp [hphase])
  match cmd with
  | none | some .shutdown | some .close => exact exit_effect hkept
  | some (.send envelope) =>
    cases ok with
    | true => exact .pass envelope (Worker.ledger_pass w envelope) hphase hkept
    | false =>
      exact .take envelope (Worker.ledger_enqueue w envelope)
        (Worker.drained_of_phase ⟨by simp [Worker.command, Worker.serve, Worker.goto],
          by simp [Worker.command, Worker.serve, Worker.goto]⟩) hkept
  | some (.subscribe ids cursor) =>
    refine .idle ?_ (fun h => Worker.drained_serve ok (h (Or.inr hphase))) hkept
    exact (Worker.ledger_serve _ ok).trans
      (Worker.ledger_record fun place => by cases place <;> rfl)

/-- The effect of every step. -/
theorem step_effect {w w' : Worker} {answer : Answer} (h : step w answer = some w') :
    StepEffect w answer w' := by
  unfold step at h
  split at h <;> try cases h
  case h_1 hphase =>
    exact .idle rfl
      (fun _ => Worker.drained_of_phase ⟨by simp [Worker.goto], by simp [Worker.goto]⟩)
      (not_loses_of_phase (by simp [hphase]))
  case h_2 hphase => exact absorb_effect (by simp [hphase]) (by simp) _
  case h_3 hphase => exact absorb_effect (by simp [hphase]) (by simp) _
  case h_4 since hphase =>
    refine .idle (Worker.ledger_record fun place => by cases place <;> rfl) (fun _ => ?_)
      (not_loses_of_phase (by simp [hphase]))
    exact Worker.drained_of_phase ⟨by simp [Worker.openFrom, Worker.goto],
      by simp [Worker.openFrom, Worker.goto]⟩
  case h_5 result hphase =>
    have hkept : ¬LosesEnvelope w (.openEnded result) := not_loses_of_phase (by simp [hphase])
    cases result with
    | opened => exact .idle (Worker.ledger_flush w) (fun _ => Worker.drained_flush w) hkept
    | unauthenticated =>
      exact .idle rfl (fun _ => Worker.drained_of_phase ⟨by simp [Worker.openEnded, Worker.goto],
        by simp [Worker.openEnded, Worker.goto]⟩) hkept
    | failed =>
      exact .idle rfl (fun _ => Worker.drained_of_phase ⟨by simp [Worker.openEnded, Worker.goto],
        by simp [Worker.openEnded, Worker.goto]⟩) hkept
  case h_6 ok hphase =>
    split at h <;> cases h
    rename_i envelope rest hpending
    cases ok with
    | true =>
      exact .hand envelope rest hpending ((Worker.ledger_flush _).trans (Worker.ledger_hand ..))
        (Worker.drained_flush _) (fun hl => by simpa using hl.2)
    | false => exact .lose envelope rest hpending (Worker.ledger_lose ..) ⟨hphase, rfl⟩
  case h_7 ok hphase =>
    exact .idle (Worker.ledger_serve w ok)
      (fun h => Worker.drained_serve ok (h (Or.inl hphase))) (not_loses_of_phase (by simp [hphase]))
  case h_8 ok hphase =>
    exact .idle (Worker.ledger_serve w ok)
      (fun h => Worker.drained_serve ok (h (Or.inr hphase))) (not_loses_of_phase (by simp [hphase]))
  case h_9 cmd ok hphase => exact command_effect hphase ok cmd
  case h_10 frame hphase =>
    have hkept : ¬LosesEnvelope w (.incoming frame) := not_loses_of_phase (by simp [hphase])
    cases frame with
    | none =>
      exact .idle (Worker.ledger_serve w false)
        (fun h => Worker.drained_serve false (h (Or.inr hphase))) hkept
    | some frame => exact .idle rfl (fun h _ => h (Or.inr hphase)) hkept
  case h_11 delayMs hphase =>
    split at h <;> cases h
    refine .idle (Worker.ledger_record fun place => by cases place <;> rfl) (fun _ => ?_)
      (not_loses_of_phase (by simp [hphase]))
    exact Worker.drained_of_phase ⟨by simp [Worker.backOff], by simp [Worker.backOff]⟩
  case h_12 hphase =>
    refine .idle (Worker.ledger_record fun place => by cases place <;> rfl) (fun _ => ?_)
      (not_loses_of_phase (by simp [hphase]))
    exact Worker.drained_of_phase ⟨by simp [Worker.goto], by simp [Worker.goto]⟩
  case h_13 hphase => exact absorb_effect (by simp [hphase]) (by simp) _

/-! ### Runs -/

/-- Every step keeps the balance of the ledger. -/
theorem step_balanced {w w' : Worker} {answer : Answer} (hb : w.ledger.Balanced)
    (h : step w answer = some w') : w'.ledger.Balanced := by
  cases step_effect h with
  | idle hledger => rwa [hledger]
  | take envelope hledger => exact hledger ▸ hb.take outgoingBufferCap envelope
  | pass envelope hledger => exact hledger ▸ hb.pass envelope
  | hand envelope rest hpending hledger => exact hledger ▸ hb.hand hpending
  | lose envelope rest hpending hledger => exact hledger ▸ hb.lose hpending

/-- A step that loses no envelope keeps the order, and connects only with an empty queue. -/
theorem step_inOrder {w w' : Worker} {answer : Answer} (hi : w.Drained ∧ w.ledger.InOrder)
    (hkept : ¬LosesEnvelope w answer) (h : step w answer = some w') :
    w'.Drained ∧ w'.ledger.InOrder := by
  obtain ⟨hdrained, horder⟩ := hi
  cases step_effect h with
  | idle hledger hd => exact ⟨hd hdrained, hledger ▸ horder⟩
  | take envelope hledger hd => exact ⟨hd, hledger ▸ horder.take outgoingBufferCap envelope⟩
  | pass envelope hledger hphase =>
    have hpending : w.pending = [] := hdrained (Or.inr hphase)
    refine ⟨fun _ => ?_, hledger ▸ horder.pass hpending envelope⟩
    exact (congrArg Ledger.waiting hledger).trans hpending
  | hand envelope rest hpending hledger hd => exact ⟨hd, hledger ▸ horder.hand hpending⟩
  | lose _ _ _ _ hlost => exact absurd hlost hkept

theorem absorb_phase {w : Worker} {next phase : Phase} {cmd : Option StreamCmd}
    (h : (w.absorb next cmd).phase = phase) : phase = next ∨ phase = .exited := by
  subst h
  match cmd with
  | none | some .shutdown | some .close => exact .inr rfl
  | some (.send envelope) | some (.subscribe ids cursor) => exact .inl rfl

/-- A worker is live only when it has greeted its stream, with what waited then. -/
theorem step_live {w w' : Worker} {answer : Answer} (h : step w answer = some w')
    (hlive : w'.phase = .live) :
    w'.pending = w.pending ∧
      (w.phase = .live ∨ w.phase = .greeting ∧ answer = .sendEnded true) := by
  unfold step at h
  split at h <;> try cases h
  case h_1 | h_4 | h_12 => cases hlive
  case h_2 | h_3 | h_13 => obtain hphase | hphase := absorb_phase hlive <;> cases hphase
  case h_5 result hphase =>
    cases result with
    | opened => exact absurd hlive w.phase_flush
    | unauthenticated | failed => cases hlive
  case h_6 ok hphase =>
    split at h <;> cases h
    cases ok with
    | true => exact absurd hlive (Worker.phase_flush _)
    | false => cases hlive
  case h_7 ok hphase =>
    cases ok with
    | true => exact ⟨rfl, .inr ⟨hphase, rfl⟩⟩
    | false => cases hlive
  case h_8 ok hphase =>
    cases ok with
    | true => exact ⟨rfl, .inl hphase⟩
    | false => cases hlive
  case h_9 cmd ok hphase =>
    refine ⟨?_, .inl hphase⟩
    match cmd, ok with
    | none, _ | some .shutdown, _ | some .close, _ => cases hlive
    | some (.send envelope), true | some (.subscribe ids cursor), true => rfl
    | some (.send envelope), false | some (.subscribe ids cursor), false => cases hlive
  case h_10 frame hphase =>
    refine ⟨?_, .inl hphase⟩
    cases frame <;> rfl
  case h_11 delayMs hphase =>
    split at h <;> cases h
    cases hlive

/-- A worker greets its stream with an empty queue unless the send of the flush has failed. -/
theorem step_greeting {w w' : Worker} {answer : Answer} (h : step w answer = some w')
    (hgreeting : w'.phase = .greeting) : w'.pending = [] ∨ LosesEnvelope w answer := by
  unfold step at h
  split at h <;> try cases h
  case h_1 | h_4 | h_12 => cases hgreeting
  case h_2 | h_3 | h_13 => obtain hphase | hphase := absorb_phase hgreeting <;> cases hphase
  case h_5 result hphase =>
    cases result with
    | opened => exact .inl (Worker.drained_flush w (.inl hgreeting))
    | unauthenticated | failed => cases hgreeting
  case h_6 ok hphase =>
    split at h <;> cases h
    cases ok with
    | true => exact .inl (Worker.drained_flush _ (.inl hgreeting))
    | false => exact .inr ⟨hphase, rfl⟩
  case h_7 ok hphase | h_8 ok hphase => cases ok <;> cases hgreeting
  case h_9 cmd ok hphase =>
    match cmd, ok with
    | none, _ | some .shutdown, _ | some .close, _ => cases hgreeting
    | some (.send envelope), true | some (.subscribe ids cursor), true => cases hgreeting
    | some (.send envelope), false | some (.subscribe ids cursor), false => cases hgreeting
  case h_10 frame hphase =>
    cases frame with
    | none => cases hgreeting
    | some frame => exact absurd (hphase.symm.trans hgreeting) (by simp)
  case h_11 delayMs hphase =>
    split at h <;> cases h
    cases hgreeting

/-- A step leaves nothing lost exactly when nothing was lost before and it loses nothing. -/
theorem step_lost {w w' : Worker} {answer : Answer} (h : step w answer = some w') :
    w'.ledger.lost = [] ↔ w.ledger.lost = [] ∧ ¬LosesEnvelope w answer := by
  cases step_effect h with
  | idle hledger _ hkept => simp [hledger, hkept]
  | take _ hledger _ hkept => simp [hledger, hkept, Ledger.take]
  | pass _ hledger _ hkept => simp [hledger, hkept, Ledger.pass]
  | hand _ _ _ hledger _ hkept => simp [hledger, hkept, Ledger.hand]
  | lose _ _ _ hledger hlost => simp [hledger, hlost, Ledger.lose]

/-- An envelope to test with. -/
def hello : Envelope where
  sender := "me"
  senderDevice := "device"
  recipient := "bob"
  contentType := 1
  messageId := "m1"
  encryptedPayload := [104, 105]
  conversationId := "direct:bob:me"

/-- After any run, every consumed envelope is accounted for, in order, exactly when no send of a
flush has failed. -/
theorem conserved_iff (ids : List String) {answers : List Answer} {w : Worker}
    (h : Run.after step (Worker.start ids) answers = some w) :
    w.Conserved ↔
      Run.Along step (fun w answer => ¬LosesEnvelope w answer) (Worker.start ids) answers := by
  have hbalanced : w.ledger.Balanced :=
    Run.invariant (I := fun w => w.ledger.Balanced) (fun _ _ _ => step_balanced)
      (List.Perm.refl []) h
  have hlost := Run.iff_along (fun _ _ _ => step_lost) h
  constructor
  · intro hc
    exact (hlost.mp (hbalanced.nothing_missing_iff.mp hc.1)).2
  · intro halong
    have hnil : w.ledger.lost = [] := hlost.mpr ⟨rfl, halong⟩
    have horder := Run.invariant_along (I := fun w => w.Drained ∧ w.ledger.InOrder)
      (fun _ _ _ => step_inOrder) ⟨fun _ => rfl, List.Sublist.refl _⟩ halong h
    exact ⟨hbalanced.nothing_missing_iff.mpr hnil, horder.2⟩

/-- An envelope waits for its stream, and the flush sends it, or fails to. -/
def flushRun (ok : Bool) : List Answer :=
  [.polled (.command (.send hello)), .invalidated none, .openEnded .opened, .sendEnded ok]

theorem flushed_conserved :
    ∃ w, Run.after step (Worker.start ["bob"]) (flushRun true) = some w ∧
      w.envelopes .handed = [hello] ∧ w.Conserved := by
  have h : Run.after step (Worker.start ["bob"]) (flushRun true) = some _ := rfl
  exact ⟨_, h, by decide, (conserved_iff ["bob"] h).mpr (by decide)⟩

/-- When the send of the flush fails, the envelope is nowhere. -/
theorem flush_failure_loses :
    ∃ w, Run.after step (Worker.start ["bob"]) (flushRun false) = some w ∧
      w.envelopes .consumed = [hello] ∧ w.envelopes .handed = [] ∧ w.pending = [] ∧
      w.envelopes .evicted = [] ∧ ¬w.Conserved :=
  ⟨_, rfl, by decide⟩

end StreamWorker

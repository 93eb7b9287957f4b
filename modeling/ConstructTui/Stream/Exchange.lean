import ConstructTui.Stream.Conservation
import ConstructTui.Stream.Link
import ConstructTui.Stream.Reconnection

/-!
# What the worker does with its stream

A worker holds a stream while it flushes, greets and serves. What it asks of the stream and what it
passes on are read off its answers: a step hands an envelope over exactly when the answer says that
the stream has accepted it, and tells the app something the server said exactly when the answer
brings a frame.

## Main definitions

* `StreamWorker.Phase.holdsStream`, `StreamWorker.Worker.asking`, `StreamWorker.Worker.told`.
* `StreamCmd.envelope?`, `StreamWorker.Answer.command?`.

## Main results

* `StreamWorker.Worker.told_step`, `StreamWorker.Worker.events_step`: what the app is told.
* `StreamWorker.Worker.handed_step`, `StreamWorker.Worker.consumed_step`: what goes out and comes
  in.
* `StreamWorker.Worker.holdsStream_opened`, `StreamWorker.Worker.holdsStream_step`: when a stream is
  held.
-/

/-- Events that pass on what the server said. -/
def StreamEvent.fromServer : StreamEvent → Bool
  | .message _ _ | .ack _ _ | .heartbeat _ _ _ | .streamError _ _ _ _ _ _ => true
  | .connected | .disconnected | .reconnecting _ _ | .authRequired => false

/-- The envelope a command carries. -/
def StreamCmd.envelope? : StreamCmd → Option Envelope
  | .send envelope => some envelope
  | .subscribe _ _ | .close | .shutdown => none

namespace StreamWorker

/-- The phases in which the worker holds a stream. -/
def Phase.holdsStream : Phase → Bool
  | .flushing | .greeting | .live => true
  | .loopHead | .invalidating | .opening | .backingOff | .sleeping | .exited => false

/-- The envelope a request carries. -/
def Request.envelope? : Request → Option Envelope
  | .send envelope => some envelope
  | .subscribe _ _ _ | .heartbeat _ => none

/-- The command an answer brings from the channel. -/
def Answer.command? : Answer → Option StreamCmd
  | .polled (.command cmd) => some cmd
  | .received cmd _ => cmd
  | _ => none

/-- What an answer brings from the server. -/
def Answer.delivered : Answer → List StreamEvent
  | .incoming (some response) => dispatchIncoming response
  | _ => []

/-- The request whose end the worker is told of, and whether it ended well. -/
def Worker.asking (w : Worker) (now : ℤ) : Answer → Option (Request × Bool)
  | .sendEnded ok =>
    match w.phase, w.pending with
    | .flushing, envelope :: _ => some (.send envelope, ok)
    | .greeting, _ => some (.heartbeat now, ok)
    | _, _ => none
  | .ticked ok => some (.heartbeat now, ok)
  | .received (some (.send envelope)) ok =>
    if w.phase = .live then some (.send envelope, ok) else none
  | .received (some (.subscribe ids cursor)) ok =>
    if w.phase = .live then some (.subscribe ids cursor false, ok) else none
  | _ => none

/-- The envelopes that a stream accepts with a request that ends well. -/
def accepted : Option (Request × Bool) → List Envelope
  | some (request, true) => request.envelope?.toList
  | _ => []

theorem fromServer_dispatchIncoming (response : Option Response) :
    (dispatchIncoming response).filter StreamEvent.fromServer = dispatchIncoming response := by
  match response with
  | none | some ⟨none, _⟩ => rfl
  | some ⟨some body, streamCursor⟩ => cases body <;> rfl

namespace Worker

variable {w w' : Worker} {answer : Answer}

/-- What the worker has passed on. -/
def told (w : Worker) : List StreamEvent := w.events.filter StreamEvent.fromServer

@[simp] theorem told_goto (w : Worker) (phase : Phase) : (w.goto phase).told = w.told := rfl

@[simp] theorem told_record (w : Worker) (obs : List Obs) : (w.record obs).told = w.told := rfl

@[simp] theorem told_enqueue (w : Worker) (envelope : Envelope) :
    (w.enqueue envelope).told = w.told := rfl

theorem told_emit (w : Worker) {event : StreamEvent} (h : event.fromServer = false) :
    (w.emit event).told = w.told := by simp [told, emit, h]

@[simp] theorem told_exit (w : Worker) : w.exit.told = w.told := told_emit w rfl

@[simp] theorem told_serve (w : Worker) (ok : Bool) : (w.serve ok).told = w.told := by
  cases ok with
  | true => rfl
  | false => exact told_emit w rfl

@[simp] theorem told_connect (w : Worker) : w.connect.told = w.told := told_emit w rfl

@[simp] theorem told_flush (w : Worker) : w.flush.told = w.told := by
  unfold flush
  split <;> simp

@[simp] theorem told_flushed (w : Worker) (envelope : Envelope) (rest : List Envelope) (ok : Bool) :
    (w.flushed envelope rest ok).told = w.told := by cases ok <;> simp [flushed] <;> rfl

@[simp] theorem told_absorb (w : Worker) (next : Phase) (cmd : Option StreamCmd) :
    (w.absorb next cmd).told = w.told := by
  match cmd with
  | none | some .shutdown | some .close => exact told_exit w
  | some (.send envelope) | some (.subscribe ids cursor) => rfl

@[simp] theorem told_command (w : Worker) (ok : Bool) (cmd : Option StreamCmd) :
    (w.command ok cmd).told = w.told := by
  match cmd with
  | none | some .shutdown | some .close => exact told_exit w
  | some (.send envelope) => cases ok <;> simp [command]
  | some (.subscribe ids cursor) =>
    simp only [command, told_serve]
    rfl

@[simp] theorem told_openEnded (w : Worker) (result : OpenResult) :
    (w.openEnded result).told = w.told := by
  cases result with
  | opened => exact told_flush w
  | unauthenticated => exact told_emit w rfl
  | failed => rfl

/-- Only a frame from the server makes the worker pass something on. -/
theorem told_step (h : step w answer = some w') : w'.told = w.told ++ answer.delivered := by
  unfold step at h
  split at h <;> try cases h
  case h_6 ok hphase =>
    split at h <;> cases h
    simp [Answer.delivered]
  case h_10 frame hphase =>
    cases frame with
    | none => simp [incoming, Answer.delivered]
    | some response =>
      simp [incoming, told, Answer.delivered, fromServer_dispatchIncoming]
  case h_11 delayMs hphase =>
    split at h <;> cases h
    exact (told_emit w rfl).trans (List.append_nil _).symm
  all_goals simp [Answer.delivered, openFrom]

theorem prefix_emit (w : Worker) (event : StreamEvent) : w.events <+: (w.emit event).events :=
  List.prefix_append ..

theorem prefix_flush (w : Worker) : w.events <+: w.flush.events := by
  unfold flush
  split
  · exact List.prefix_append ..
  · exact List.prefix_rfl

theorem prefix_serve (w : Worker) (ok : Bool) : w.events <+: (w.serve ok).events := by
  cases ok with
  | true => exact List.prefix_rfl
  | false => exact w.prefix_emit _

theorem prefix_absorb (w : Worker) (next : Phase) (cmd : Option StreamCmd) :
    w.events <+: (w.absorb next cmd).events := by
  match cmd with
  | none | some .shutdown | some .close => exact w.prefix_emit _
  | some (.send envelope) | some (.subscribe ids cursor) => exact List.prefix_rfl

theorem prefix_command (w : Worker) (ok : Bool) (cmd : Option StreamCmd) :
    w.events <+: (w.command ok cmd).events := by
  match cmd with
  | none | some .shutdown | some .close => exact w.prefix_emit _
  | some (.send envelope) =>
    cases ok with
    | true => exact List.prefix_rfl
    | false => exact prefix_serve ((w.record [.consumed envelope]).enqueue envelope) false
  | some (.subscribe ids cursor) =>
    exact prefix_serve ({ w with subscribedUsers := ids }.record [.subscribed ids cursor ok]) ok

/-- What the worker has told the app stays told. -/
theorem events_step (h : step w answer = some w') : w.events <+: w'.events := by
  unfold step at h
  split at h <;> try cases h
  case h_1 | h_4 | h_12 => exact List.prefix_rfl
  case h_2 | h_3 | h_13 => exact prefix_absorb ..
  case h_5 result hphase =>
    cases result with
    | opened => exact w.prefix_flush
    | unauthenticated => exact w.prefix_emit _
    | failed => exact List.prefix_rfl
  case h_6 ok hphase =>
    split at h <;> cases h
    rename_i envelope rest hpending
    cases ok with
    | true => exact prefix_flush ({ w with pending := rest }.record [.handed envelope])
    | false => exact List.prefix_append ..
  case h_7 | h_8 => exact prefix_serve ..
  case h_9 => exact prefix_command ..
  case h_10 frame hphase =>
    cases frame with
    | none => exact w.prefix_serve false
    | some response => exact List.prefix_append ..
  case h_11 delayMs hphase =>
    split at h <;> cases h
    exact w.prefix_emit _

/-- A command taken while no stream is open hands nothing over. -/
theorem handed_absorb (w : Worker) (next : Phase) (cmd : Option StreamCmd) :
    (w.absorb next cmd).envelopes .handed = w.envelopes .handed ++ [] := by
  rw [List.append_nil]
  match cmd with
  | none | some .shutdown | some .close => rfl
  | some (.send envelope) => exact congrArg Ledger.handed (ledger_enqueue w envelope)
  | some (.subscribe ids cursor) => rfl

/-- The envelopes handed over become more exactly when the stream accepts one. -/
theorem handed_step (h : step w answer = some w') (now : ℤ) :
    w'.envelopes .handed = w.envelopes .handed ++ accepted (w.asking now answer) := by
  have hsame {v : Worker} (hv : v.ledger = w.ledger) :
      v.envelopes .handed = w.envelopes .handed ++ [] := by
    rw [List.append_nil]
    exact congrArg Ledger.handed hv
  unfold step at h
  split at h <;> try cases h
  case h_1 => exact hsame rfl
  case h_2 hphase => exact hsame rfl
  case h_3 cmd hphase => exact handed_absorb w .invalidating (some cmd)
  case h_4 => exact hsame (ledger_record fun place => by cases place <;> rfl)
  case h_5 result hphase =>
    cases result with
    | opened => exact hsame (ledger_flush w)
    | unauthenticated | failed => exact hsame rfl
  case h_6 ok hphase =>
    split at h <;> cases h
    rename_i envelope rest hpending
    rw [asking, hphase, hpending]
    cases ok with
    | true => exact congrArg Ledger.handed ((ledger_flush _).trans (ledger_hand w envelope rest))
    | false =>
      rw [accepted, List.append_nil]
      · exact congrArg Ledger.handed (ledger_lose w envelope rest)
      · simp
  case h_7 ok hphase =>
    rw [asking, hphase]
    cases ok <;> exact hsame (ledger_serve w _)
  case h_8 ok hphase => cases ok <;> exact hsame (ledger_serve w _)
  case h_9 cmd ok hphase =>
    match cmd with
    | none | some .shutdown | some .close => exact hsame rfl
    | some (.send envelope) =>
      rw [asking, if_pos hphase]
      cases ok with
      | true => exact congrArg Ledger.handed (ledger_pass w envelope)
      | false =>
        rw [accepted, List.append_nil]
        · exact congrArg Ledger.handed (ledger_enqueue w envelope)
        · simp
    | some (.subscribe ids cursor) =>
      rw [asking, if_pos hphase]
      have hledger : (w.command ok (some (.subscribe ids cursor))).ledger = w.ledger :=
        (ledger_serve _ ok).trans (ledger_record fun place => by cases place <;> rfl)
      cases ok <;> exact hsame hledger
  case h_10 frame hphase =>
    cases frame with
    | none => exact hsame (ledger_serve w false)
    | some response => exact hsame rfl
  case h_11 delayMs hphase =>
    split at h <;> cases h
    exact hsame (ledger_record fun place => by cases place <;> rfl)
  case h_12 hphase => exact hsame (ledger_record fun place => by cases place <;> rfl)
  case h_13 cmd ok hphase =>
    have hasking : w.asking now (.received cmd ok) = none := by
      match cmd with
      | none | some .shutdown | some .close => rfl
      | some (.send envelope) | some (.subscribe ids cursor) => simp [asking, hphase]
    rw [hasking]
    exact handed_absorb w .loopHead cmd

/-- A command taken while no stream is open is consumed. -/
theorem consumed_absorb (w : Worker) (next : Phase) (cmd : Option StreamCmd) :
    (w.absorb next cmd).envelopes .consumed =
      w.envelopes .consumed ++ (cmd.bind StreamCmd.envelope?).toList := by
  match cmd with
  | none | some .shutdown | some .close | some (.subscribe ids cursor) =>
    exact (List.append_nil _).symm
  | some (.send envelope) => exact congrArg Ledger.consumed (ledger_enqueue w envelope)

/-- An envelope is consumed exactly when a command brings it. -/
theorem consumed_step (h : step w answer = some w') : w'.envelopes .consumed =
    w.envelopes .consumed ++ (answer.command?.bind StreamCmd.envelope?).toList := by
  have hsame {v : Worker} (hv : v.ledger = w.ledger) :
      v.envelopes .consumed = w.envelopes .consumed ++ [] := by
    rw [List.append_nil]
    exact congrArg Ledger.consumed hv
  unfold step at h
  split at h <;> try cases h
  case h_1 => exact hsame rfl
  case h_2 hphase => exact hsame rfl
  case h_3 cmd hphase => exact consumed_absorb w .invalidating (some cmd)
  case h_4 => exact hsame (ledger_record fun place => by cases place <;> rfl)
  case h_5 result hphase =>
    cases result with
    | opened => exact hsame (ledger_flush w)
    | unauthenticated | failed => exact hsame rfl
  case h_6 ok hphase =>
    split at h <;> cases h
    rename_i envelope rest hpending
    have hconsumed : (w.flushed envelope rest ok).envelopes .consumed = w.envelopes .consumed := by
      cases ok with
      | true =>
        exact congrArg Ledger.consumed ((ledger_flush _).trans (ledger_hand w envelope rest))
      | false => exact congrArg Ledger.consumed (ledger_lose w envelope rest)
    exact hconsumed.trans (List.append_nil _).symm
  case h_7 ok hphase => exact hsame (ledger_serve w ok)
  case h_8 ok hphase => exact hsame (ledger_serve w ok)
  case h_9 cmd ok hphase =>
    match cmd with
    | none | some .shutdown | some .close => exact hsame rfl
    | some (.send envelope) =>
      cases ok with
      | true => exact congrArg Ledger.consumed (ledger_pass w envelope)
      | false => exact congrArg Ledger.consumed (ledger_enqueue w envelope)
    | some (.subscribe ids cursor) =>
      exact hsame ((ledger_serve _ ok).trans (ledger_record fun place => by cases place <;> rfl))
  case h_10 frame hphase =>
    cases frame with
    | none => exact hsame (ledger_serve w false)
    | some response => exact hsame rfl
  case h_11 delayMs hphase =>
    split at h <;> cases h
    exact hsame (ledger_record fun place => by cases place <;> rfl)
  case h_12 hphase => exact hsame (ledger_record fun place => by cases place <;> rfl)
  case h_13 cmd ok hphase => exact consumed_absorb w .loopHead cmd

/-- A stream is held from when it has been opened. -/
theorem holdsStream_opened (h : step w (.openEnded .opened) = some w') :
    w.phase.holdsStream = false ∧ w'.phase.holdsStream = true := by
  obtain ⟨hphase, rfl⟩ := phase_of_openEnded h
  refine ⟨by rw [hphase]; rfl, ?_⟩
  rw [openEnded, flush]
  split <;> rfl

/-- Only an opened stream begins to be held. -/
theorem holdsStream_step (h : step w answer = some w') (hopened : answer ≠ .openEnded .opened)
    (hholds : w'.phase.holdsStream = true) : w.phase.holdsStream = true := by
  have hfree {phase : Phase} (hphase : w'.phase = phase) (hfalse : phase.holdsStream = false) :
      False := by simp [hphase, hfalse] at hholds
  cases hphase : w.phase with
  | flushing | greeting | live => rfl
  | exited => simp [step_exited hphase] at h
  | backingOff =>
    obtain ⟨-, -, -, hnext⟩ := step_backingOff hphase h
    exact (hfree hnext rfl).elim
  | sleeping =>
    obtain ⟨-, hnext | hnext⟩ := step_sleeping hphase h
    all_goals exact (hfree hnext rfl).elim
  | loopHead =>
    obtain ⟨-, hnext | hnext⟩ := step_loopHead hphase h
    all_goals exact (hfree hnext rfl).elim
  | invalidating =>
    obtain ⟨since, -, rfl⟩ := step_invalidating hphase h
    exact (hfree (rfl : (w.openFrom since).phase = .opening) rfl).elim
  | opening =>
    obtain ⟨result, rfl⟩ := step_opening hphase h
    obtain ⟨-, rfl⟩ := phase_of_openEnded h
    have hfailed : result ≠ .opened := fun hr => hopened (congrArg Answer.openEnded hr)
    exact (hfree (phase_openEnded hfailed) rfl).elim

/-- Without a stream nothing is asked and nothing arrives. -/
theorem idle_of_step (h : step w answer = some w') (hfree : w.phase.holdsStream = false) (now : ℤ) :
    w.asking now answer = none ∧ answer.delivered = [] := by
  unfold step at h
  split at h <;> try cases h
  case h_13 cmd ok hphase =>
    refine ⟨?_, rfl⟩
    match cmd with
    | none | some .shutdown | some .close => rfl
    | some (.send envelope) | some (.subscribe ids cursor) => simp [asking, hphase]
  all_goals next hphase => first
    | exact ⟨rfl, rfl⟩
    | simp [hphase, Phase.holdsStream] at hfree

end Worker

end StreamWorker

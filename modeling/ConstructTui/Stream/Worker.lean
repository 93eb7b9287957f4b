import ConstructTui.Events
import ConstructTui.Lib.Run

/-!
# The stream worker

`run_worker` keeps a message stream open: it opens one, flushes the envelopes that wait, and serves
commands, heartbeats and incoming frames until the stream breaks; then it backs off and starts
again. The worker is a machine whose phases are the points where the code awaits an answer, and
whose labels are those answers: what `try_recv` or `recv` finds, how an open or a send ends, the
delay that was drawn. Which answer comes is the environment's choice.

## Main definitions

* `MessageIdType`, `WireEnvelope`, `Response`, `StreamEvent`: what the server sends and what the
  worker tells the app.
* `StreamWorker.pushPending`, `StreamWorker.backoffBaseSecs`, `StreamWorker.dispatchIncoming`.
* `StreamWorker.Phase`, `StreamWorker.Answer`, `StreamWorker.Obs`, `StreamWorker.Worker`.
* `StreamWorker.step`: one answer to a worker that waits.
-/

/-- How an inbound envelope is identified. -/
inductive MessageIdType
  | messageId (id : String)
  | groupMessageId
  deriving DecidableEq, Repr

/-- An inbound envelope as the server delivers it. -/
structure WireEnvelope where
  messageIdType : Option MessageIdType
  sender : Option String
  contentType : ℤ
  encryptedPayload : Bytes
  sealedSender : Option Bytes
  deriving DecidableEq, Repr

/-- What a response on the stream carries. -/
inductive ResponseBody
  | message (envelope : WireEnvelope)
  | ack (messageId : String)
  | heartbeatAck (timestamp serverTimestamp : ℤ)
  | error (messageId : String) (errorCode : ℤ) (errorMessage : String) (retryable : Bool)
      (retryAfterMs : Option ℤ)
  | receipt
  | typing
  | presence
  | p2pHandoff
  deriving DecidableEq, Repr

structure Response where
  body : Option ResponseBody
  streamCursor : Option String
  deriving DecidableEq, Repr

/-- Events from the stream worker to the app. -/
inductive StreamEvent
  | message (envelope : WireEnvelope) (streamCursor : Option String)
  | ack (messageId : String) (streamCursor : Option String)
  | heartbeat (timestamp serverTimestamp : ℤ) (streamCursor : Option String)
  | streamError (messageId : String) (errorCode : ℤ) (errorMessage : String) (retryable : Bool)
      (retryAfterMs : Option ℤ) (streamCursor : Option String)
  | connected
  | disconnected
  | reconnecting (attempt : UInt32) (delayMs : ℕ)
  | authRequired
  deriving DecidableEq, Repr

namespace StreamWorker

def outgoingBufferCap : ℕ := 256

/-- Queue an envelope, dropping the oldest one when the buffer is full. -/
def pushPending (pending : List Envelope) (envelope : Envelope) : List Envelope :=
  (if outgoingBufferCap ≤ pending.length then pending.tail else pending) ++ [envelope]

/-- What `pushPending` drops. -/
def evictedBy (pending : List Envelope) : List Envelope :=
  if outgoingBufferCap ≤ pending.length then pending.take 1 else []

def backoffBaseSecs (attempt : UInt32) : ℕ := min (1 <<< min attempt.toNat 6) 60

/-- The delay drawn for an attempt stays within a fifth of its base. -/
def DelayDrawn (attempt : UInt32) (delayMs : ℕ) : Prop :=
  backoffBaseSecs attempt * 800 ≤ delayMs ∧ delayMs ≤ backoffBaseSecs attempt * 1200

instance (attempt : UInt32) (delayMs : ℕ) : Decidable (DelayDrawn attempt delayMs) :=
  inferInstanceAs (Decidable (_ ∧ _))

def saturatingSucc (attempt : UInt32) : UInt32 :=
  if attempt.toNat + 1 < UInt32.size then attempt + 1 else attempt

/-- What a frame makes the worker tell the app. A frame that does not decode is `none`. -/
def dispatchIncoming : Option Response → List StreamEvent
  | none => []
  | some response =>
    match response.body with
    | some (.message envelope) => [.message envelope response.streamCursor]
    | some (.ack messageId) => [.ack messageId response.streamCursor]
    | some (.heartbeatAck timestamp serverTimestamp) =>
      [.heartbeat timestamp serverTimestamp response.streamCursor]
    | some (.error messageId errorCode errorMessage retryable retryAfterMs) =>
      [.streamError messageId errorCode errorMessage retryable retryAfterMs response.streamCursor]
    | some .receipt | some .typing | some .presence | some .p2pHandoff | none => []

/-- Where the worker waits. -/
inductive Phase
  | loopHead
  | invalidating
  | opening
  | flushing
  | greeting
  | live
  | backingOff
  | sleeping
  | exited
  deriving DecidableEq, Repr

/-- What `try_recv` finds. -/
inductive Polled
  | empty
  | disconnected
  | command (cmd : StreamCmd)
  deriving DecidableEq, Repr

/-- How an attempt to open the stream ends. -/
inductive OpenResult
  | opened
  | unauthenticated
  | failed
  deriving DecidableEq, Repr

/-- The answers the worker waits for. When the old session is dropped, the watermark is read and the
next attempt starts. -/
inductive Answer
  | polled (found : Polled)
  | invalidated (since : Option String)
  | openEnded (result : OpenResult)
  | sendEnded (ok : Bool)
  | ticked (ok : Bool)
  | received (cmd : Option StreamCmd) (ok : Bool)
  | incoming (frame : Option (Option Response))
  | delayDrawn (delayMs : ℕ)
  | elapsed
  deriving DecidableEq, Repr

/-- What the history of a worker records. -/
inductive Obs
  | consumed (envelope : Envelope)
  | handed (envelope : Envelope)
  | evicted (envelope : Envelope)
  | lost (envelope : Envelope)
  | opening (ids : List String) (since : Option String)
  | subscribed (ids : List String) (cursor : Option String) (ok : Bool)
  | reconnecting (delayMs : ℕ)
  | elapsed
  deriving DecidableEq, Repr

/-- A stream worker, with the events it has sent and its history. -/
structure Worker where
  phase : Phase
  pending : List Envelope
  subscribedUsers : List String
  attempt : UInt32
  events : List StreamEvent
  history : List Obs
  deriving DecidableEq

/-- A worker that has just been spawned. -/
def Worker.start (subscribedUsers : List String) : Worker where
  phase := .loopHead
  pending := []
  subscribedUsers := subscribedUsers
  attempt := 0
  events := []
  history := []

namespace Worker

def goto (w : Worker) (phase : Phase) : Worker := { w with phase := phase }

def emit (w : Worker) (event : StreamEvent) : Worker := { w with events := w.events ++ [event] }

def record (w : Worker) (obs : List Obs) : Worker := { w with history := w.history ++ obs }

/-- The worker returns, and its task sends a last event. -/
def exit (w : Worker) : Worker := (w.emit .disconnected).goto .exited

/-- An envelope goes to the end of the queue. -/
def enqueue (w : Worker) (envelope : Envelope) : Worker :=
  { w with pending := pushPending w.pending envelope }.record
    ((evictedBy w.pending).map Obs.evicted)

/-- A command taken while no stream is open. -/
def absorb (w : Worker) (next : Phase) : Option StreamCmd → Worker
  | none | some .shutdown | some .close => w.exit
  | some (.send envelope) => ((w.record [.consumed envelope]).enqueue envelope).goto next
  | some (.subscribe ids _) => { w with subscribedUsers := ids, phase := next }

/-- The queue is flushed up to here: its next envelope is sent, or the stream counts as connected
and is greeted with a heartbeat. -/
def connect (w : Worker) : Worker :=
  { w with attempt := 0, phase := .greeting, events := w.events ++ [.connected] }

def flush (w : Worker) : Worker :=
  match w.pending with
  | [] => w.connect
  | _ :: _ => w.goto .flushing

/-- The flush has taken an envelope off the queue and sent it. -/
def flushed (w : Worker) (envelope : Envelope) (rest : List Envelope) (ok : Bool) : Worker :=
  if ok then ({ w with pending := rest }.record [.handed envelope]).flush
  else ({ w with pending := rest }.record [.lost envelope]).connect

/-- A send on the live stream has ended. -/
def serve (w : Worker) (ok : Bool) : Worker :=
  if ok then w.goto .live else (w.emit .disconnected).goto .backingOff

/-- A command taken from the channel while the stream is live. -/
def command (w : Worker) (ok : Bool) : Option StreamCmd → Worker
  | none | some .shutdown | some .close => w.exit
  | some (.send envelope) =>
    if ok then ((w.record [.consumed envelope]).record [.handed envelope]).serve true
    else ((w.record [.consumed envelope]).enqueue envelope).serve false
  | some (.subscribe ids cursor) =>
    ({ w with subscribedUsers := ids }.record [.subscribed ids cursor ok]).serve ok

/-- `wait_backoff` begins: the attempt is announced and counted. -/
def backOff (w : Worker) (delayMs : ℕ) : Worker :=
  { (w.emit (.reconnecting (w.attempt + 1) delayMs)).record [.reconnecting delayMs] with
    attempt := saturatingSucc w.attempt, phase := .sleeping }

/-- An attempt to open the stream starts. -/
def openFrom (w : Worker) (since : Option String) : Worker :=
  (w.record [.opening w.subscribedUsers since]).goto .opening

/-- An attempt to open the stream has ended. -/
def openEnded (w : Worker) (result : OpenResult) : Worker :=
  match result with
  | .opened => w.flush
  | .unauthenticated => (w.emit .authRequired).goto .backingOff
  | .failed => w.goto .backingOff

/-- A frame arrived on the live stream, or the stream has ended. -/
def incoming (w : Worker) : Option (Option Response) → Worker
  | none => w.serve false
  | some frame => { w with events := w.events ++ dispatchIncoming frame }

end Worker

/-- One answer to a worker that waits for it. -/
def step (w : Worker) (answer : Answer) : Option Worker :=
  match w.phase, answer with
  | .loopHead, .polled .empty => some (w.goto .invalidating)
  | .loopHead, .polled .disconnected => some (w.absorb .invalidating none)
  | .loopHead, .polled (.command cmd) => some (w.absorb .invalidating (some cmd))
  | .invalidating, .invalidated since => some (w.openFrom since)
  | .opening, .openEnded result => some (w.openEnded result)
  | .flushing, .sendEnded ok =>
    match w.pending with
    | [] => none
    | envelope :: rest => some (w.flushed envelope rest ok)
  | .greeting, .sendEnded ok => some (w.serve ok)
  | .live, .ticked ok => some (w.serve ok)
  | .live, .received cmd ok => some (w.command ok cmd)
  | .live, .incoming frame => some (w.incoming frame)
  | .backingOff, .delayDrawn delayMs =>
    if DelayDrawn w.attempt delayMs then some (w.backOff delayMs) else none
  | .sleeping, .elapsed => some ((w.record [.elapsed]).goto .loopHead)
  | .sleeping, .received cmd _ => some (w.absorb .loopHead cmd)
  | _, _ => none

end StreamWorker

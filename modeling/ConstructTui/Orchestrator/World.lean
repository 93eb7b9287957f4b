import ConstructTui.Events
import ConstructTui.Lib.Hex
import ConstructTui.Lib.Program

/-!
# The world of the orchestrator task

What the orchestrator task reads and writes: the database, the watermark it shares with the
stream worker, its outgoing channels, its timers and its own tables, and the state of everything
outside the repository. The messaging core, the network, the clock, the random source, and the
success of a database statement are functions of that outside state, so a statement about every
`Externals` is one about every behaviour of them.

The task's programs are built from the atomic steps of this module. A history of observations
grows along; nothing reads it.

## Main definitions

* `Externals`, `TaskConfig`, `Obs`, `TaskWorld`, `TaskWorld.start`.
* `OrchestratorTask.external`, `OrchestratorTask.sql`, `OrchestratorTask.handleEvent`,
  `OrchestratorTask.trySend`, and the other atomic steps.
-/

/-! ### What lies outside -/

/-- The payload of `InitSession`: the X3DH bundle with the Kyber keys next to it. -/
structure SessionInitBundle where
  x3dh : Bytes
  kyberPreKeyPublic : Option Bytes
  kyberOneTimePrekeyPublic : Option Bytes
  kyberOneTimePrekeyId : Option UInt32
  deriving DecidableEq, Repr

/-- The behaviour of the messaging core, the network, JSON, the clock, the random source and the
database engine, over an outside state `ε`. -/
structure Externals (ε : Type) where
  handleEvent : IncomingEvent → ε → List CoreAction × ε
  hasActiveSession : String → ε → Bool
  pendingMessageCount : String → ε → ℕ
  peekFirstPendingWirePayload : String → ε → Option Bytes
  popFirstPending : String → ε → Option String × ε
  initReceivingSessionFromWirePayload :
    String → Bytes → Bytes → ε → Except String (String × Bytes) × ε
  initSessionWithBundle : String → SessionInitBundle → ε → Except String String × ε
  takeHealPayload : String → ε → Option Bytes × ε
  forgetContactState : String → ε → ε
  exportOrchestratorStateCfe : ε → Except String Bytes
  getPreKeyBundle : String → ε → Except String SessionInitBundle × ε
  bundleToJson : SessionInitBundle → Except String String
  bundleOfJson : String → Except String SessionInitBundle
  millis : ε → ℕ × ε
  randomBytes : ε → { bs : Bytes // bs.length = 16 } × ε
  sqlFails : ε → Bool × ε
  streamHasRoom : ε → Bool × ε

/-- Surroundings in which nothing happens and every request fails; concrete runs override what
they need. -/
def Externals.quiet : Externals Unit where
  handleEvent _ _ := ([], ())
  hasActiveSession _ _ := false
  pendingMessageCount _ _ := 0
  peekFirstPendingWirePayload _ _ := none
  popFirstPending _ _ := (none, ())
  initReceivingSessionFromWirePayload _ _ _ _ := (.error "", ())
  initSessionWithBundle _ _ _ := (.error "", ())
  takeHealPayload _ _ := (none, ())
  forgetContactState _ _ := ()
  exportOrchestratorStateCfe _ := .error ""
  getPreKeyBundle _ _ := (.error "", ())
  bundleToJson _ := .error ""
  bundleOfJson _ := .error ""
  millis _ := (0, ())
  randomBytes _ := (⟨List.replicate 16 0, rfl⟩, ())
  sqlFails _ := (false, ())
  streamHasRoom _ := (true, ())

/-- What a task is started with. -/
structure TaskConfig where
  proto : Proto
  myUserId : String
  myDeviceId : String

/-! ### The task's own state -/

/-- What a spawned sub-task does once it has waited. -/
inductive Spawned
  | appLaunchedAfter (delayMs : UInt64)
  | fetchBundle (userId : String)
  | timer (timerId : String) (delayMs : UInt64)
  deriving DecidableEq, Repr

/-- Observations recorded in the history of a run. The app records there that it has deleted the
rows of a contact. -/
inductive Obs
  | handled (event : IncomingEvent)
  | pushed (event : IncomingEvent)
  | received (messageId : String) (cursor : Option String)
  | dropped (messageId : String)
  | queued (messageId : String)
  | popped (messageId : String)
  | decrypted (messageId peerId text : String)
  | saved (key : String)
  | notified (chatId : String)
  | contactDeleted (contactId : String)
  deriving DecidableEq, Repr

/-- The state the task's steps act on. `followUps` and `sessionInited` are the vector and the set
that a driver of the dispatcher keeps while it runs; `log` is the history. -/
structure TaskWorld (ε : Type) where
  ext : ε
  storage : Storage
  committed : Option String
  pendingCursors : Dict String
  streamTx : List StreamCmd
  ui : List BridgeEvent
  selfTx : List IncomingEvent
  timers : Dict ℕ
  spawned : List Spawned
  aborted : List ℕ
  sessionEstablishedAtMs : Dict ℕ
  followUps : List IncomingEvent
  sessionInited : List String
  log : List Obs

/-- The world a task starts in: the watermark is read from the database, all else is empty. -/
def TaskWorld.start {ε : Type} (ext : ε) (storage : Storage) : TaskWorld ε where
  ext := ext
  storage := storage
  committed := storage.loadStreamCursor
  pendingCursors := Table.empty
  streamTx := []
  ui := []
  selfTx := []
  timers := Table.empty
  spawned := []
  aborted := []
  sessionEstablishedAtMs := Table.empty
  followUps := []
  sessionInited := []
  log := []

namespace OrchestratorTask

variable {ε : Type} (X : Externals ε)

/-! ### Asking the outside -/

/-- Ask the outside something, leaving it as it is. -/
def query {α : Type} (f : ε → α) : Prog (TaskWorld ε) α := Prog.read fun w => f w.ext

/-- Let the outside act and answer. -/
def external {α : Type} (f : ε → α × ε) : Prog (TaskWorld ε) α :=
  Prog.act fun w => ((f w.ext).1, { w with ext := (f w.ext).2 })

/-- The core takes an event and answers with actions. -/
def handleEvent (event : IncomingEvent) : Prog (TaskWorld ε) (List CoreAction) :=
  Prog.act fun w => ((X.handleEvent event w.ext).1,
    { w with ext := (X.handleEvent event w.ext).2, log := w.log ++ [.handled event] })

/-- The effect of a database statement: a statement that fails changes nothing. -/
def sqlStep {α : Type} (f : Storage → α × Storage) (w : TaskWorld ε) : Option α × TaskWorld ε :=
  if (X.sqlFails w.ext).1 then (none, { w with ext := (X.sqlFails w.ext).2 })
  else (some (f w.storage).1,
    { w with ext := (X.sqlFails w.ext).2, storage := (f w.storage).2 })

/-- Run a database statement; no answer when it fails. -/
def sql {α : Type} (f : Storage → α × Storage) : Prog (TaskWorld ε) (Option α) :=
  Prog.act (sqlStep X f)

/-- Run a database statement that answers nothing. -/
def exec (f : Storage → Storage) : Prog (TaskWorld ε) (Option Unit) := sql X fun s => ((), f s)

/-! ### The clock and the random source -/

/-- `as_millis() as i64`. -/
def millisI64 (n : ℕ) : ℤ := (BitVec.ofNat 64 n).toInt

/-- `now_ms_u64`: the milliseconds since the epoch, saturated. -/
def nowMsU64 : Prog (TaskWorld ε) ℕ := do
  return min (← external X.millis) (2 ^ 64 - 1)

/-- `now_ms`: the same as a signed number, saturated again. -/
def nowMs : Prog (TaskWorld ε) ℤ := do
  return min (← nowMsU64 X) (2 ^ 63 - 1)

/-- Sixteen random bytes as a version 4 UUID. -/
def formatUuidV4 (bs : Bytes) : String :=
  Uuid.format ((bs.set 6 (bs.getD 6 0 &&& 0x0F ||| 0x40)).set 8 (bs.getD 8 0 &&& 0x3F ||| 0x80))

def uuidV4 : Prog (TaskWorld ε) String := do
  return formatUuidV4 (← external X.randomBytes).val

/-! ### Channels, timers and tables -/

/-- Record an observation. -/
def observe (o : Obs) : Prog (TaskWorld ε) Unit :=
  Prog.update fun w => { w with log := w.log ++ [o] }

/-- `internal_tx.send`. -/
def sendUi (event : BridgeEvent) : Prog (TaskWorld ε) Unit :=
  Prog.update fun w => { w with ui := w.ui ++ [event] }

/-- `self_tx.send`. -/
def sendSelf (event : IncomingEvent) : Prog (TaskWorld ε) Unit :=
  Prog.update fun w => { w with selfTx := w.selfTx ++ [event] }

/-- `stream_tx.try_send`, its error ignored: a command that finds no room is gone. -/
def trySend (cmd : StreamCmd) : Prog (TaskWorld ε) Unit :=
  Prog.update fun w =>
    { w with
      ext := (X.streamHasRoom w.ext).2
      streamTx := if (X.streamHasRoom w.ext).1 then w.streamTx ++ [cmd] else w.streamTx }

/-- Start a sub-task; its answer is the handle that can abort it. -/
def spawn (task : Spawned) : Prog (TaskWorld ε) ℕ :=
  Prog.act fun w => (w.spawned.length, { w with spawned := w.spawned ++ [task] })

/-- `follow_ups.push`. -/
def pushFollowUp (event : IncomingEvent) : Prog (TaskWorld ε) Unit :=
  Prog.update fun w =>
    { w with followUps := w.followUps ++ [event], log := w.log ++ [.pushed event] }

/-- A driver starts with an empty vector and an empty set. -/
def startCycle : Prog (TaskWorld ε) Unit :=
  Prog.update fun w => { w with followUps := [], sessionInited := [] }

/-- The driver takes its vector out and goes on with empty ones. -/
def takeFollowUps : Prog (TaskWorld ε) (List IncomingEvent) :=
  Prog.act fun w => (w.followUps, { w with followUps := [] })

/-- An action of a follow-up gets a vector nobody reads. -/
def dropFollowUps : Prog (TaskWorld ε) Unit :=
  Prog.update fun w => { w with followUps := [] }

/-- `session_inited.insert`. -/
def markInited (contactId : String) : Prog (TaskWorld ε) Unit :=
  Prog.update fun w =>
    { w with sessionInited :=
      if contactId ∈ w.sessionInited then w.sessionInited else w.sessionInited ++ [contactId] }

def setEstablished (contactId : String) (atMs : ℕ) : Prog (TaskWorld ε) Unit :=
  Prog.update fun w =>
    { w with sessionEstablishedAtMs := w.sessionEstablishedAtMs.insertOrReplace (contactId, atMs) }

def removeEstablished (contactId : String) : Prog (TaskWorld ε) Unit :=
  Prog.update fun w =>
    { w with sessionEstablishedAtMs :=
      w.sessionEstablishedAtMs.deleteWhere fun r => r.1 = contactId }

def insertTimer (timerId : String) (handle : ℕ) : Prog (TaskWorld ε) Unit :=
  Prog.update fun w => { w with timers := w.timers.insertOrReplace (timerId, handle) }

/-- Remove a timer and abort its sub-task, if there is one. -/
def abortTimer (timerId : String) : Prog (TaskWorld ε) Unit :=
  Prog.update fun w =>
    match w.timers.find? timerId with
    | some (_, handle) =>
      { w with
        timers := w.timers.deleteWhere fun r => r.1 = timerId
        aborted := w.aborted ++ [handle] }
    | none => w

end OrchestratorTask

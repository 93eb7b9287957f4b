import ConstructTui.Orchestrator.Dispatch

/-!
# The orchestrator task

The task takes commands and events, hands events to the core and dispatches what it answers. An
answer may push follow-up events for the core; the drivers differ in what they do with them.

## Main definitions

* `OrchestratorTask.deliver`, `OrchestratorTask.deliverShallow`: the two kinds of driver.
* `OrchestratorTask.establishSession`, `OrchestratorTask.prepareOutgoing`.
* `OrchestratorTask.handleRx`, `OrchestratorTask.handleCommand`, `OrchestratorTask.runTask`.
-/

/-- What the select of the run loop can receive. -/
inductive TaskInput
  | command (cmd : OrchestratorCommand)
  | event (event : IncomingEvent)
  deriving DecidableEq, Repr

namespace OrchestratorTask

variable {ε : Type} (X : Externals ε) (C : TaskConfig)

/-! ### Drivers of the dispatcher -/

/-- Hand an event to the core and dispatch its answer, collecting follow-ups. -/
def deliverShallow (event : IncomingEvent) : Prog (TaskWorld ε) Unit := do
  let actions ← handleEvent X event
  startCycle
  dispatchAll X C actions

/-- Hand a follow-up to the core and dispatch its answer; what that pushes goes nowhere. The set
of contacts initialised in this cycle is shared. -/
def deliverFollowUp (followUp : IncomingEvent) : Prog (TaskWorld ε) Unit := do
  let more ← handleEvent X followUp
  Prog.each (fun action => do dropFollowUps; dispatch X C action) more

/-- Hand an event to the core, dispatch its answer, and hand over the follow-ups it pushed: one
level deep. -/
def deliver (event : IncomingEvent) : Prog (TaskWorld ε) Unit := do
  deliverShallow X C event
  let followUps ← takeFollowUps
  Prog.each (deliverFollowUp X C) followUps

/-! ### Before the core sees an event -/

/-- Fetch the peer's bundle and let the core start a session. Whether one was created. -/
def establishSession (contactId : String) : Prog (TaskWorld ε) (Except String Bool) := do
  if ← query (X.hasActiveSession contactId) then
    return .ok false
  match ← fetchBundleJson X contactId with
  | .error e => return .error ("GetPreKeyBundle: " ++ e)
  | .ok bundleJson =>
    deliver X C (.keyBundleFetched contactId bundleJson)
    let created ← query (X.hasActiveSession contactId)
    return if created then .ok true else .error "no session after InitSession"

/-- Opening a chat establishes a session; a new one gets a ping as its first message, unless the
peer's first message was already waiting. -/
def prepareActiveChat (contactId : String) : Prog (TaskWorld ε) Unit := do
  let hadInbound := 0 < (← query (X.pendingMessageCount contactId))
  match ← establishSession X C contactId with
  | .ok true =>
    if !hadInbound then
      let pingId ← uuidV4 X
      deliverShallow X C (.outgoingMessage contactId pingId
        (Knst.encodeSessionPing C.proto pingId) 0)
  | .ok false => pure ()
  | .error e => sendUi (.error ("[SESSION_INIT_FAILED] " ++ e))

/-- The plaintext a message is sent as: UTF-8 text is wrapped in a frame, while data that already
is a frame, or starts with NUL, stays as it is. -/
def outgoingPlaintext (messageId : String) (plaintext : Bytes) : Bytes :=
  if Knst.isFrame plaintext || plaintext.head? = some 0 then plaintext
  else Knst.encodeText C.proto (Utf8.decodeLossy plaintext) messageId

/-- `prepare_outgoing`; no event is left when a message finds no session. -/
def prepareOutgoing : IncomingEvent → Prog (TaskWorld ε) (Option IncomingEvent)
  | .activeChatChanged contactId true => do
    prepareActiveChat X C contactId
    return some (.activeChatChanged contactId true)
  | .outgoingMessage contactId messageId plaintext contentType => do
    let event :=
      .outgoingMessage contactId messageId (outgoingPlaintext C messageId plaintext) contentType
    if ← query (X.hasActiveSession contactId) then
      return some event
    match ← establishSession X C contactId with
    | .ok _ => return some event
    | .error e =>
      sendUi (.error ("[SESSION_INIT_FAILED] " ++ e))
      return none
  | other => return some other

/-! ### Commands -/

/-- The milliseconds of a stream cursor. -/
def streamCursorMillis (cursor : Option String) : Option ℕ := do
  let (millis, _) ← splitOnce '-' (← cursor).toList
  parseU64 millis

/-- Whether a message that could undo a session is older than the session. -/
def shouldDropStaleSessionReplay (context : StreamMessageContext) (established : Dict ℕ) : Bool :=
  context.isReplaySensitive &&
    match established.find? context.contactId, streamCursorMillis context.streamCursor with
    | some (_, establishedAtMs), some cursorMs => cursorMs < establishedAtMs
    | _, _ => false

/-- Save the core's own state without the contact. -/
def saveOrchestratorState : Prog (TaskWorld ε) Unit := do
  match ← query X.exportOrchestratorStateCfe with
  | .ok state =>
    let _ ← exec X (Storage.secureSaveOrDelete Storage.orchestratorStateKey state)
  | .error _ => return

/-- Forget a contact's session state, in the core and in the secure store. -/
def forgetContact (contactId : String) : Prog (TaskWorld ε) Unit := do
  deliverShallow X C (.activeChatChanged contactId false)
  external fun e => ((), X.forgetContactState contactId e)
  removeEstablished contactId
  saveOrchestratorState X
  let _ ← exec X (Storage.secureDelete (Storage.sessionKey contactId))
  let _ ← exec X (Storage.secureDelete (Storage.archiveKey contactId))

/-- An inbound message: a stale replay only moves the watermark, any other goes to the core. -/
def streamMessage (event : IncomingEvent) (context : StreamMessageContext) :
    Prog (TaskWorld ε) Unit := do
  observe (.received context.messageId context.streamCursor)
  if shouldDropStaleSessionReplay context (← Prog.read TaskWorld.sessionEstablishedAtMs) then
    observe (.dropped context.messageId)
    CursorTracker.commitDirect X context.streamCursor
  else
    CursorTracker.note context.messageId context.streamCursor
    deliver X C event

def handleCommand : OrchestratorCommand → Prog (TaskWorld ε) Unit
  | .forgetContact contactId => forgetContact X C contactId
  | .streamMessage event context => streamMessage X C event context

/-! ### The run loop -/

/-- An event from the app, or from the task itself. -/
def handleRx (event : IncomingEvent) : Prog (TaskWorld ε) Unit := do
  match ← prepareOutgoing X C event with
  | some event => deliver X C event
  | none => pure ()

def handleInput : TaskInput → Prog (TaskWorld ε) Unit
  | .command cmd => handleCommand X C cmd
  | .event event => handleRx X C event

/-- The run loop on the inputs it receives, in the order the select takes them. -/
def runTask (inputs : List TaskInput) : Prog (TaskWorld ε) Unit :=
  Prog.each (handleInput X C) inputs

end OrchestratorTask

import ConstructTui.Orchestrator.CursorTracker

/-!
# Dispatching the core's actions

The programs that carry one action out. Three of them bring a decrypted plaintext to the user: the
action `messageDecrypted`, and the responder branches of `initSession` and `sessionHealNeeded`,
which hold the plaintext of a session's first message.

## Main definitions

* `OrchestratorTask.persistInbound`, `OrchestratorTask.storeAndNotify`,
  `OrchestratorTask.surfaceFirst`.
* `OrchestratorTask.dispatch`.
-/

namespace OrchestratorTask

variable {ε : Type} (X : Externals ε) (C : TaskConfig)

/-! ### Inbound messages -/

/-- Store an inbound message and move the watermark if that worked. -/
def persistInbound (messageId : String) (msg : StoredMessage) : Prog (TaskWorld ε) Unit := do
  observe (.decrypted messageId msg.peerId msg.text)
  if (← exec X (Storage.storeInboundMessage msg)).isSome then
    CursorTracker.commit X messageId

/-- Store a decrypted message and show it to the user. -/
def storeAndNotify (contactId messageId text : String) : Prog (TaskWorld ε) Unit := do
  let nowMs := millisI64 (← external X.millis)
  persistInbound X messageId
    { id := messageId, peerId := contactId, text := text, direction := .received,
      timestampMs := nowMs, deliveryStatus := "" }
  sendUi (.newMessage contactId messageId text nowMs)

/-- The test a first message passes before it is shown: it is not empty, starts with no NUL and
holds no marker of a ping or a heartbeat. -/
def isUserContent (text : String) : Bool :=
  text ≠ "" && !startsWithText text "\x00" && !containsText text "__session_ping_" &&
    !containsText text "__heartbeat__"

/-- Take the message that carried a new session out of the pending queue; a queue without one
gives a fresh id. -/
def popFirst (contactId : String) : Prog (TaskWorld ε) String := do
  match ← external (X.popFirstPending contactId) with
  | some id => return id
  | none => uuidV4 X

/-- Show the message that carried a new session, unless it is a control message. -/
def surfaceFirst (contactId firstMessageId : String) (firstPlaintext : Bytes) :
    Prog (TaskWorld ε) Unit := do
  let firstText := Knst.decodeText C.proto firstPlaintext
  if isUserContent firstText then
    storeAndNotify X contactId firstMessageId firstText

/-! ### Sessions -/

/-- `init_initiator_from_json`. -/
def initInitiatorFromJson (contactId bundleJson : String) :
    Prog (TaskWorld ε) (Except String String) :=
  match X.bundleOfJson bundleJson with
  | .error e => pure (.error e)
  | .ok bundle => external (X.initSessionWithBundle contactId bundle)

/-- `fetch_bundle_json`. -/
def fetchBundleJson (userId : String) : Prog (TaskWorld ε) (Except String String) := do
  match ← external (X.getPreKeyBundle userId) with
  | .error e => return .error e
  | .ok bundle => return X.bundleToJson bundle

/-- A control envelope to a contact, sent if the stream has room. -/
def sendSessionReset (contactId : String) : Prog (TaskWorld ε) Unit := do
  let messageId ← uuidV4 X
  trySend X (.send (buildControlEnvelope C.myUserId C.myDeviceId contactId
    ContentType.sessionReset (List.replicate 16 0) messageId))

/-- What `InitSession` ends with in every branch that did not fail. -/
def finishInit (contactId : String) : Prog (TaskWorld ε) Unit := do
  markInited contactId
  let atMs ← nowMsU64 X
  setEstablished contactId atMs
  pushFollowUp (.sessionInitCompleted contactId [])

/-- The initiator branches of `InitSession`. -/
def initAsInitiator (contactId bundleJson : String) : Prog (TaskWorld ε) Unit := do
  match ← initInitiatorFromJson X contactId bundleJson with
  | .error e => sendUi (.error ("[SESSION_INIT_FAILED] " ++ e))
  | .ok _ => finishInit X contactId

/-- `Action::InitSession`: as responder when the peer's first message is already waiting, and as
initiator otherwise. -/
def initSession (contactId bundleJson : String) : Prog (TaskWorld ε) Unit := do
  if 0 < (← query (X.pendingMessageCount contactId)) then
    match ← query (X.peekFirstPendingWirePayload contactId) with
    | some wire =>
      match ← external (X.initReceivingSessionFromWirePayload contactId
          (Utf8.encode bundleJson) wire) with
      | .ok (_, firstPlaintext) =>
        let firstMessageId ← popFirst X contactId
        observe (.popped firstMessageId)
        markInited contactId
        surfaceFirst X C contactId firstMessageId firstPlaintext
        finishInit X contactId
      | .error _ => return
    | none => initAsInitiator X contactId bundleJson
  else initAsInitiator X contactId bundleJson

/-- The initiator branch of `SessionHealNeeded`: reset the peer, start over with a fresh bundle,
and let a session ping take the first message number. -/
def healAsInitiator (contactId : String) : Prog (TaskWorld ε) Unit := do
  sendSessionReset X C contactId
  match ← fetchBundleJson X contactId with
  | .error _ => return
  | .ok bundleJson =>
    match ← initInitiatorFromJson X contactId bundleJson with
    | .error _ => return
    | .ok _ =>
      pushFollowUp (.sessionInitCompleted contactId [])
      let pingId ← uuidV4 X
      pushFollowUp (.outgoingMessage contactId pingId
        (Knst.encodeSessionPing C.proto pingId) 0)

/-- The responder branch of `SessionHealNeeded`: establish the session from the peer's queued
first message. -/
def healAsResponder (contactId : String) : Prog (TaskWorld ε) Unit := do
  match ← external (X.takeHealPayload contactId) with
  | none => return
  | some wire =>
    match ← fetchBundleJson X contactId with
    | .error _ => return
    | .ok bundleJson =>
      match ← external (X.initReceivingSessionFromWirePayload contactId
          (Utf8.encode bundleJson) wire) with
      | .ok (_, firstPlaintext) =>
        let firstMessageId ← popFirst X contactId
        observe (.popped firstMessageId)
        surfaceFirst X C contactId firstMessageId firstPlaintext
        pushFollowUp (.sessionInitCompleted contactId [])
      | .error _ => sendSessionReset X C contactId

/-- `Action::SessionHealNeeded`, skipped when the contact's session was initialised in the same
cycle. -/
def sessionHealNeeded (contactId role : String) : Prog (TaskWorld ε) Unit := do
  if contactId ∈ (← Prog.read TaskWorld.sessionInited) then
    return
  if role = "Initiator" then healAsInitiator X C contactId
  else healAsResponder X C contactId

/-! ### The secure store -/

/-- `apply_secure_store_save`. -/
def applySecureStoreSave (key : String) (data : Bytes) : Prog (TaskWorld ε) Unit :=
  Prog.update fun w =>
    let w' := (sqlStep X (fun s => ((), s.secureSaveOrDelete key data)) w).2
    { w' with log := w'.log ++ [.saved key] }

/-- `apply_session_terminated`: archive, and only then drop the hot session. -/
def applySessionTerminated (contactId : String) (archiveBytes : Bytes) :
    Prog (TaskWorld ε) Unit := do
  if (← exec X (Storage.secureSave (Storage.archiveKey contactId) archiveBytes)).isSome then
    let _ ← exec X (Storage.secureDelete (Storage.sessionKey contactId))

/-- `u64 as i64`. -/
def u64AsI64 (n : UInt64) : ℤ := n.toInt64.toInt

/-- The text the TUI sends as a heartbeat. -/
def heartbeatPlaintext : Bytes := 0 :: Utf8.encode "HEARTBEAT" ++ [0]

/-- A message the core announces without a row of its own. -/
def notifyUi (chatId preview : String) (timestampMs : ℤ) : Prog (TaskWorld ε) Unit :=
  Prog.update fun w =>
    { w with
      ui := w.ui ++ [.newMessage chatId "" preview timestampMs]
      log := w.log ++ [.notified chatId] }

/-! ### One action -/

/-- Carry out one action of the core. -/
def dispatch : CoreAction → Prog (TaskWorld ε) Unit
  | .initSession contactId bundleJson => initSession X C contactId bundleJson
  -- handled inside the core
  | .decryptMessage | .encryptMessage | .applyPQContribution | .archiveSession => pure ()
  | .messageDecrypted contactId messageId plaintext =>
    storeAndNotify X contactId messageId (Knst.decodeText C.proto plaintext)
  | .callSignalDecrypted | .endSessionSuppressed => pure ()
  | .messageQueuedPendingInit _ messageId => observe (.queued messageId)
  | .sessionHealNeeded contactId role => sessionHealNeeded X C contactId role
  | .healSuppressed _ retryAfterMs => do
    let _ ← spawn (.appLaunchedAfter retryAfterMs)
  | .saveSessionToSecureStore key data => applySecureStoreSave X key data
  | .loadSessionFromSecureStore key => do
    let data ← sql X fun s => (s.secureLoad key, s)
    pushFollowUp (.sessionLoaded key data.join)
  | .persistMessage messageJson => do
    let _ ← exec X (Storage.persistRecord "msg" messageJson)
  | .persistAck messageId timestamp => do
    let _ ← exec X (Storage.storeAck messageId (u64AsI64 timestamp))
  | .pruneAckStore cutoffTs => do
    let _ ← exec X (Storage.pruneAcks (u64AsI64 cutoffTs))
  | .markMessageDelivered messageId => do
    let _ ← exec X (Storage.markDelivered messageId)
  | .checkAckInDb messageId => do
    let isProcessed := (← sql X fun s => (s.hasAck messageId, s)).getD false
    pushFollowUp (.ackDbResult messageId isProcessed)
  | .fetchPublicKeyBundle userId => do
    let _ ← spawn (.fetchBundle userId)
  | .sendEncryptedMessage recipient payload messageId contentType =>
    trySend X (.send (buildEnvelope C.myUserId C.myDeviceId recipient payload messageId
      (contentTypeFromU8 contentType)))
  | .sendReceipt _ => pure ()
  | .sendEndSession contactId =>
    trySend X (.send (buildControlEnvelope C.myUserId C.myDeviceId contactId
      ContentType.sessionReset [] ("end-session-" ++ contactId)))
  | .sendHeartbeat contactId => do
    let messageId ← uuidV4 X
    sendSelf (.outgoingMessage contactId messageId heartbeatPlaintext 0)
  | .notifyNewMessage chatId preview => do
    let timestampMs ← nowMs X
    notifyUi chatId preview timestampMs
  | .notifySessionCreated contactId => sendUi (.sessionReady contactId)
  | .notifyError code message => sendUi (.error ("[" ++ code ++ "] " ++ message))
  | .notifyLinkedDevicesOfSessionReset => pure ()
  | .scheduleTimer timerId delayMs => do
    let handle ← spawn (.timer timerId delayMs)
    insertTimer timerId handle
  | .cancelTimer timerId => abortTimer timerId
  | .sessionTerminated contactId archiveBytes => do
    applySessionTerminated X contactId archiveBytes
    removeEstablished contactId

/-- Carry out the actions of one answer, in order. -/
def dispatchAll (actions : List CoreAction) : Prog (TaskWorld ε) Unit :=
  Prog.each (dispatch X C) actions

end OrchestratorTask

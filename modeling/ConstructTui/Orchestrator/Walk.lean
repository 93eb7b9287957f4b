import ConstructTui.Orchestrator.Task

/-!
# The kinds that the task's programs are of

The programs of the task are composed of a few steps. A kind of programs that composition stays in,
and that these steps are of, is one that the programs are of: the programs are walked through here
once, and a property of all of them is checked on the steps.

## Main definitions

* `OrchestratorTask.TaskStatement`: the statements the task runs and forgets.
* `OrchestratorTask.Steps`: the steps of what dispatches an action, apart from those that write the
  tables of the sessions and the timers; `OrchestratorTask.SessionSteps`, with the tables of the
  sessions, and `OrchestratorTask.ActionSteps`, with the timers as well;
  `OrchestratorTask.DriverSteps`: the steps of the drivers as well.

## Main results

* `OrchestratorTask.Steps.sessionHealNeeded`, `OrchestratorTask.SessionSteps.dispatch`,
  `OrchestratorTask.DriverSteps.handleRx`, `OrchestratorTask.DriverSteps.handleCommand`.
-/

namespace OrchestratorTask

variable {ε : Type}

/-- The statements that change the database when an action is carried out or a contact forgotten. -/
inductive TaskStatement : (Storage → Storage) → Prop
  | persistRecord (json : String) : TaskStatement (Storage.persistRecord "msg" json)
  | storeAck (messageId : String) (timestampMs : ℤ) :
      TaskStatement (Storage.storeAck messageId timestampMs)
  | pruneAcks (cutoffMs : ℤ) : TaskStatement (Storage.pruneAcks cutoffMs)
  | markDelivered (messageId : String) : TaskStatement (Storage.markDelivered messageId)
  | saveArchive (contactId : String) (bytes : Bytes) :
      TaskStatement (Storage.secureSave (Storage.archiveKey contactId) bytes)
  | deleteSession (contactId : String) :
      TaskStatement (Storage.secureDelete (Storage.sessionKey contactId))
  | deleteArchive (contactId : String) :
      TaskStatement (Storage.secureDelete (Storage.archiveKey contactId))
  | saveState (state : Bytes) :
      TaskStatement (Storage.secureSaveOrDelete Storage.orchestratorStateKey state)

/-- A sub-task that a timer waits for. -/
def isTimer : Spawned → Bool
  | .timer _ _ => true
  | _ => false

/-- The kind has every step of carrying out an action, but for those that write the tables of the
sessions and the timers. `Loads` says which keys the core loads. -/
structure Steps (X : Externals ε) (Loads : String → Prop)
    (P : (α : Type) → Prog (TaskWorld ε) α → Prop) : Prop extends Prog.Closed P where
  query {α : Type} (f : ε → α) : P α (query f)
  external {α : Type} (f : ε → α × ε) : P α (external f)
  inited : P _ (Prog.read TaskWorld.sessionInited)
  queued (messageId : String) : P Unit (observe (.queued messageId))
  popped (messageId : String) : P Unit (observe (.popped messageId))
  sendUi (event : BridgeEvent) (h : event.isNewMessage = false) : P Unit (sendUi event)
  notifyUi (chatId preview : String) (timestampMs : ℤ) :
    P Unit (notifyUi chatId preview timestampMs)
  sendOutgoing (contactId messageId : String) (plaintext : Bytes) (contentType : UInt8) :
    P Unit (sendSelf (.outgoingMessage contactId messageId plaintext contentType))
  trySend (cmd : StreamCmd) : P Unit (trySend X cmd)
  spawn (task : Spawned) (h : isTimer task = false) : P ℕ (spawn task)
  pushFollowUp (event : IncomingEvent) : P Unit (pushFollowUp event)
  exec (f : Storage → Storage) (h : TaskStatement f) : P _ (exec X f)
  hasAck (messageId : String) : P _ (sql X fun s => (s.hasAck messageId, s))
  secureLoad (key : String) (h : Loads key) : P _ (sql X fun s => (s.secureLoad key, s))
  secureStoreSave (key : String) (data : Bytes) : P Unit (applySecureStoreSave X key data)
  storeAndNotify (contactId messageId text : String) :
    P Unit (storeAndNotify X contactId messageId text)

/-- The action loads no key but those that the core loads. -/
def LoadsOnly (Loads : String → Prop) : CoreAction → Prop
  | .loadSessionFromSecureStore key => Loads key
  | _ => True

theorem loadsOnly_true (action : CoreAction) : LoadsOnly (fun _ => True) action := by
  cases action <;> exact trivial

/-- The kind has the steps that write the tables of the sessions as well. -/
structure SessionSteps (X : Externals ε) (Loads : String → Prop)
    (P : (α : Type) → Prog (TaskWorld ε) α → Prop) : Prop extends Steps X Loads P where
  markInited (contactId : String) : P Unit (markInited contactId)
  setEstablished (contactId : String) (atMs : ℕ) : P Unit (setEstablished contactId atMs)
  removeEstablished (contactId : String) : P Unit (removeEstablished contactId)

/-- The kind has the steps that write the table of the timers as well. -/
structure ActionSteps (X : Externals ε) (Loads : String → Prop)
    (P : (α : Type) → Prog (TaskWorld ε) α → Prop) : Prop extends SessionSteps X Loads P where
  startTimer (timerId : String) (delayMs : UInt64) :
    P ℕ (OrchestratorTask.spawn (.timer timerId delayMs))
  insertTimer (timerId : String) (handle : ℕ) : P Unit (insertTimer timerId handle)
  abortTimer (timerId : String) : P Unit (abortTimer timerId)

/-- The kind has the steps of the drivers as well. -/
structure DriverSteps (X : Externals ε) (Loads : String → Prop)
    (P : (α : Type) → Prog (TaskWorld ε) α → Prop) : Prop extends ActionSteps X Loads P where
  startCycle : P Unit startCycle
  takeFollowUps : P _ takeFollowUps
  dropFollowUps : P Unit dropFollowUps
  handleEvent {α : Type} (event : IncomingEvent) (g : List CoreAction → Prog (TaskWorld ε) α)
    (h : ∀ actions, (∀ action ∈ actions, LoadsOnly Loads action) → P α (g actions)) :
    P α (handleEvent X event >>= g)

variable {X : Externals ε} {C : TaskConfig} {Loads : String → Prop}
  {P : (α : Type) → Prog (TaskWorld ε) α → Prop}

/-! ### Parts of carrying out an action -/

namespace Steps

variable (h : Steps X Loads P)

include h

theorem uuidV4 : P String (uuidV4 X) := h.bind (h.external _) fun _ => h.pure _

theorem nowMsU64 : P ℕ (nowMsU64 X) := h.bind (h.external _) fun _ => h.pure _

theorem nowMs : P ℤ (nowMs X) := h.bind h.nowMsU64 fun _ => h.pure _

/-- A statement whose answer is ignored. -/
theorem execOnly {f : Storage → Storage} (hf : TaskStatement f) :
    P Unit (OrchestratorTask.exec X f >>= fun _ => pure ()) :=
  h.bind (h.exec f hf) fun _ => h.pure _

theorem popFirst (contactId : String) : P String (popFirst X contactId) := by
  refine h.bind (h.external _) fun id => ?_
  cases id with
  | some id => exact h.pure id
  | none => exact h.uuidV4

theorem surfaceFirst (contactId firstMessageId : String) (firstPlaintext : Bytes) :
    P Unit (surfaceFirst X C contactId firstMessageId firstPlaintext) := by
  unfold OrchestratorTask.surfaceFirst
  dsimp only
  split
  · exact h.storeAndNotify _ _ _
  · exact h.pure _

theorem initInitiatorFromJson (contactId bundleJson : String) :
    P _ (initInitiatorFromJson X contactId bundleJson) := by
  unfold OrchestratorTask.initInitiatorFromJson
  split
  · exact h.pure _
  · exact h.external _

theorem fetchBundleJson (userId : String) : P _ (fetchBundleJson X userId) := by
  refine h.bind (h.external _) fun r => ?_
  cases r with
  | error e => exact h.pure _
  | ok bundle => exact h.pure _

theorem sendSessionReset (contactId : String) : P Unit (sendSessionReset X C contactId) :=
  h.bind h.uuidV4 fun _ => h.trySend _

theorem healAsInitiator (contactId : String) : P Unit (healAsInitiator X C contactId) := by
  refine h.bind (h.sendSessionReset _) fun _ => h.bind (h.fetchBundleJson _) fun r => ?_
  cases r with
  | error e => exact h.pure _
  | ok bundleJson =>
    refine h.bind (h.initInitiatorFromJson _ _) fun r => ?_
    cases r with
    | error e => exact h.pure _
    | ok _ =>
      exact h.bind (h.pushFollowUp _) fun _ => h.bind h.uuidV4 fun _ => h.pushFollowUp _

theorem healAsResponder (contactId : String) : P Unit (healAsResponder X C contactId) := by
  refine h.bind (h.external _) fun wire => ?_
  cases wire with
  | none => exact h.pure _
  | some wire =>
    refine h.bind (h.fetchBundleJson _) fun r => ?_
    cases r with
    | error e => exact h.pure _
    | ok bundleJson =>
      refine h.bind (h.external _) fun r => ?_
      cases r with
      | error e => exact h.sendSessionReset _
      | ok r =>
        exact h.bind (h.popFirst _) fun id => h.bind (h.popped id) fun _ =>
          h.bind (h.surfaceFirst _ _ _) fun _ => h.pushFollowUp _

theorem sessionHealNeeded (contactId role : String) :
    P Unit (sessionHealNeeded X C contactId role) := by
  refine h.bind h.inited fun inited => ?_
  split
  · exact h.pure _
  · split
    · exact h.healAsInitiator _
    · exact h.healAsResponder _

theorem applySessionTerminated (contactId : String) (archiveBytes : Bytes) :
    P Unit (applySessionTerminated X contactId archiveBytes) := by
  refine h.bind (h.exec _ (.saveArchive _ _)) fun r => ?_
  split
  · exact h.execOnly (.deleteSession _)
  · exact h.pure _

theorem saveOrchestratorState : P Unit (saveOrchestratorState X) := by
  refine h.bind (h.query _) fun r => ?_
  cases r with
  | ok state => exact h.execOnly (.saveState _)
  | error e => exact h.pure _

/-- Carrying out an action, up to what it does to the tables of the sessions and the timers. -/
theorem dispatch {action : CoreAction} (hload : LoadsOnly Loads action)
    (hinit : ∀ contactId bundleJson, action = .initSession contactId bundleJson →
      P Unit (initSession X C contactId bundleJson))
    (hremove : ∀ contactId bytes, action = .sessionTerminated contactId bytes →
      P Unit (removeEstablished contactId))
    (hschedule : ∀ timerId delayMs, action = .scheduleTimer timerId delayMs →
      P Unit (OrchestratorTask.spawn (.timer timerId delayMs) >>= insertTimer timerId))
    (hcancel : ∀ timerId, action = .cancelTimer timerId → P Unit (abortTimer timerId)) :
    P Unit (dispatch X C action) := by
  cases action with
  | initSession contactId bundleJson => exact hinit _ _ rfl
  | messageDecrypted contactId messageId plaintext => exact h.storeAndNotify _ _ _
  | sessionHealNeeded contactId role => exact h.sessionHealNeeded _ _
  | messageQueuedPendingInit contactId messageId => exact h.queued _
  | healSuppressed contactId retryAfterMs => exact h.bind (h.spawn _ rfl) fun _ => h.pure _
  | saveSessionToSecureStore key data => exact h.secureStoreSave _ _
  | loadSessionFromSecureStore key =>
    exact h.bind (h.secureLoad _ hload) fun _ => h.pushFollowUp _
  | persistMessage messageJson => exact h.execOnly (.persistRecord _)
  | persistAck messageId timestamp => exact h.execOnly (.storeAck _ _)
  | pruneAckStore cutoffTs => exact h.execOnly (.pruneAcks _)
  | markMessageDelivered messageId => exact h.execOnly (.markDelivered _)
  | checkAckInDb messageId => exact h.bind (h.hasAck _) fun _ => h.pushFollowUp _
  | fetchPublicKeyBundle userId => exact h.bind (h.spawn _ rfl) fun _ => h.pure _
  | sendEncryptedMessage recipient payload messageId contentType => exact h.trySend _
  | sendEndSession contactId => exact h.trySend _
  | sendHeartbeat contactId => exact h.bind h.uuidV4 fun _ => h.sendOutgoing _ _ _ _
  | notifyNewMessage chatId preview => exact h.bind h.nowMs fun _ => h.notifyUi _ _ _
  | notifySessionCreated contactId => exact h.sendUi _ rfl
  | notifyError code message => exact h.sendUi _ rfl
  | scheduleTimer timerId delayMs => exact hschedule _ _ rfl
  | cancelTimer timerId => exact hcancel _ rfl
  | sessionTerminated contactId archiveBytes =>
    exact h.bind (h.applySessionTerminated _ _) fun _ => hremove _ _ rfl
  | decryptMessage | encryptMessage | applyPQContribution | archiveSession | callSignalDecrypted
  | endSessionSuppressed | sendReceipt | notifyLinkedDevicesOfSessionReset => exact h.pure _

end Steps

/-! ### The dispatcher and its drivers -/

namespace SessionSteps

variable (h : SessionSteps X Loads P)

include h

theorem finishInit (contactId : String) : P Unit (finishInit X contactId) :=
  h.bind (h.markInited _) fun _ => h.bind h.nowMsU64 fun _ =>
    h.bind (h.setEstablished _ _) fun _ => h.pushFollowUp _

theorem initAsInitiator (contactId bundleJson : String) :
    P Unit (initAsInitiator X contactId bundleJson) := by
  refine h.bind (h.initInitiatorFromJson _ _) fun r => ?_
  cases r with
  | error e => exact h.sendUi _ rfl
  | ok _ => exact h.finishInit _

theorem initSession (contactId bundleJson : String) :
    P Unit (initSession X C contactId bundleJson) := by
  refine h.bind (h.query _) fun count => ?_
  split
  · refine h.bind (h.query _) fun wire => ?_
    cases wire with
    | none => exact h.initAsInitiator _ _
    | some wire =>
      refine h.bind (h.external _) fun r => ?_
      cases r with
      | error e => exact h.pure _
      | ok r =>
        exact h.bind (h.popFirst _) fun id => h.bind (h.popped id) fun _ =>
          h.bind (h.markInited _) fun _ => h.bind (h.surfaceFirst _ _ _) fun _ => h.finishInit _
  · exact h.initAsInitiator _ _

/-- Carrying out an action, up to what it does to the timers. -/
theorem dispatch {action : CoreAction} (hload : LoadsOnly Loads action)
    (hschedule : ∀ timerId delayMs, action = .scheduleTimer timerId delayMs →
      P Unit (OrchestratorTask.spawn (.timer timerId delayMs) >>= insertTimer timerId))
    (hcancel : ∀ timerId, action = .cancelTimer timerId → P Unit (abortTimer timerId)) :
    P Unit (dispatch X C action) :=
  h.toSteps.dispatch hload (fun _ _ _ => h.initSession _ _) (fun _ _ _ => h.removeEstablished _)
    hschedule hcancel

end SessionSteps

namespace ActionSteps

variable (h : ActionSteps X Loads P)

include h

theorem dispatch {action : CoreAction} (hload : LoadsOnly Loads action) :
    P Unit (dispatch X C action) :=
  h.toSessionSteps.dispatch hload
    (fun _ _ _ => h.bind (h.startTimer _ _) fun _ => h.insertTimer _ _) fun _ _ => h.abortTimer _

theorem dispatchAll {actions : List CoreAction}
    (hload : ∀ action ∈ actions, LoadsOnly Loads action) : P Unit (dispatchAll X C actions) :=
  h.eachOf actions fun action haction => h.dispatch (hload action haction)

end ActionSteps

namespace DriverSteps

variable (h : DriverSteps X Loads P)

include h

theorem deliverShallow (event : IncomingEvent) : P Unit (deliverShallow X C event) :=
  h.handleEvent event _ fun _ hload => h.bind h.startCycle fun _ => h.dispatchAll hload

theorem deliverFollowUp (followUp : IncomingEvent) : P Unit (deliverFollowUp X C followUp) :=
  h.handleEvent followUp _ fun more hload => h.eachOf more fun action haction =>
    h.bind h.dropFollowUps fun _ => h.dispatch (hload action haction)

theorem deliver (event : IncomingEvent) : P Unit (deliver X C event) :=
  h.bind (h.deliverShallow event) fun _ => h.bind h.takeFollowUps fun followUps =>
    h.each h.deliverFollowUp followUps

theorem establishSession (contactId : String) : P _ (establishSession X C contactId) := by
  refine h.bind (h.query _) fun active => ?_
  split
  · exact h.pure _
  · refine h.bind (h.fetchBundleJson _) fun r => ?_
    cases r with
    | error e => exact h.pure _
    | ok bundleJson => exact h.bind (h.deliver _) fun _ => h.bind (h.query _) fun _ => h.pure _

theorem prepareActiveChat (contactId : String) : P Unit (prepareActiveChat X C contactId) := by
  refine h.bind (h.query _) fun count => h.bind (h.establishSession _) fun r => ?_
  match r with
  | .ok true =>
    dsimp only
    split
    · exact h.bind h.uuidV4 fun _ => h.deliverShallow _
    · exact h.pure _
  | .ok false => exact h.pure _
  | .error e => exact h.sendUi _ rfl

theorem prepareOutgoing (event : IncomingEvent) : P _ (prepareOutgoing X C event) := by
  unfold OrchestratorTask.prepareOutgoing
  split
  · exact h.bind (h.prepareActiveChat _) fun _ => h.pure _
  · refine h.bind (h.query _) fun active => ?_
    split
    · exact h.pure _
    · refine h.bind (h.establishSession _) fun r => ?_
      cases r with
      | ok _ => exact h.pure _
      | error e => exact h.bind (h.sendUi _ rfl) fun _ => h.pure _
  · exact h.pure _

/-- Handling an event of the run loop. -/
theorem handleRx (event : IncomingEvent) : P Unit (handleRx X C event) := by
  refine h.bind (h.prepareOutgoing event) fun r => ?_
  cases r with
  | some event => exact h.deliver event
  | none => exact h.pure _

theorem forgetContact (contactId : String) : P Unit (forgetContact X C contactId) :=
  h.bind (h.deliverShallow _) fun _ => h.bind (h.external _) fun _ =>
    h.bind (h.removeEstablished _) fun _ => h.bind h.saveOrchestratorState fun _ =>
      h.bind (h.exec _ (.deleteSession _)) fun _ => h.execOnly (.deleteArchive _)

variable (hobserve : ∀ o, P Unit (observe o))
  (hestablished : P _ (Prog.read TaskWorld.sessionEstablishedAtMs))
  (hnote : ∀ messageId cursor, P Unit (CursorTracker.note messageId cursor))
  (hpersist : ∀ cursor, P Unit (CursorTracker.persist X cursor))

include hobserve hestablished hnote hpersist

/-- Handling an inbound message, for a kind that has the moves of the watermark. -/
theorem streamMessage (event : IncomingEvent) (context : StreamMessageContext) :
    P Unit (streamMessage X C event context) := by
  refine h.bind (hobserve _) fun _ => h.bind hestablished fun established => ?_
  split
  · exact h.bind (hobserve _) fun _ => hpersist _
  · exact h.bind (hnote _ _) fun _ => h.deliver event

theorem handleCommand (cmd : OrchestratorCommand) : P Unit (handleCommand X C cmd) := by
  cases cmd with
  | forgetContact contactId => exact h.forgetContact contactId
  | streamMessage event context =>
    exact h.streamMessage hobserve hestablished hnote hpersist event context

end DriverSteps

end OrchestratorTask

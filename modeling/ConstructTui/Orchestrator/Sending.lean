import ConstructTui.Orchestrator.Effects
import ConstructTui.Stream.Relay

/-!
# What the task sends

The task puts nothing but envelopes into the stream channel, and it writes each of them itself: its
own account is the sender, its own device the sending device, and the conversation has the name that
both ends give it. Only five content types occur. So a peer that gets such an envelope unchanged
reads in it who sent it, under which id, and what.

## Main definitions

* `sentContentTypes`, `Envelope.SignedBy`: the envelopes a task of an account writes.
* `Envelope.forwarded`: the envelope as it is delivered when the server forwards it unchanged.
* `OrchestratorTask.Queues`: an atomic step that puts at most such envelopes into the channel.

## Main results

* `OrchestratorTask.handleRx_queues`, `OrchestratorTask.handleCommand_queues`.
* `Envelope.SignedBy.inboundCommand_eq`: what a peer reads.
-/

/-- The content types that occur in what a task sends. -/
def sentContentTypes : List UInt8 :=
  [ContentType.e2eeSignal, ContentType.callSignal, ContentType.keyExchange,
    ContentType.sessionReset, ContentType.sessionResetInit]

/-- A task of this account and device has written the envelope. -/
structure Envelope.SignedBy (C : TaskConfig) (envelope : Envelope) : Prop where
  written : envelope = buildEnvelope C.myUserId C.myDeviceId envelope.recipient
    envelope.encryptedPayload envelope.messageId envelope.contentType
  contentType : envelope.contentType ∈ sentContentTypes

/-- What a peer gets when the server forwards an envelope as it is. -/
def Envelope.forwarded (envelope : Envelope) : WireEnvelope where
  messageIdType := some (.messageId envelope.messageId)
  sender := some envelope.sender
  contentType := envelope.contentType.toNat
  encryptedPayload := envelope.encryptedPayload
  sealedSender := none

theorem contentTypeFromU8_mem (v : UInt8) : contentTypeFromU8 v ∈ sentContentTypes := by
  unfold contentTypeFromU8
  split_ifs <;> decide

theorem signedBy_buildEnvelope (C : TaskConfig) (toUser : String) (payload : Bytes)
    (messageId : String) {contentType : UInt8} (h : contentType ∈ sentContentTypes) :
    (buildEnvelope C.myUserId C.myDeviceId toUser payload messageId contentType).SignedBy C :=
  ⟨rfl, h⟩

theorem Envelope.SignedBy.sender {C : TaskConfig} {envelope : Envelope} (h : envelope.SignedBy C) :
    envelope.sender = C.myUserId := by
  rw [h.written]
  rfl

theorem contentTypeToU8_toNat (contentType : UInt8) :
    contentTypeToU8 contentType.toNat = contentType := by
  unfold contentTypeToU8
  have hlt := contentType.toNat_lt
  rw [if_pos (by omega)]
  simp

/-- A peer reads in the envelope who sent it, under which id and what; a reset of the session
reaches its core even when the payload is no message. -/
theorem Envelope.SignedBy.inboundCommand_eq {C : TaskConfig} {envelope : Envelope}
    (h : envelope.SignedBy C) (codec : EnvelopeCodec) (identitySecret : Bytes)
    (streamCursor : Option String) {header : WireHeader}
    (hheader : codec.unpack envelope.encryptedPayload = .ok header ∨
      (∃ e, codec.unpack envelope.encryptedPayload = .error e) ∧ header = ⟨0, none, 0⟩ ∧
        isSessionResetControlType envelope.contentType = true) :
    inboundCommand codec identitySecret envelope.forwarded streamCursor = some (.streamMessage
      (.messageReceived envelope.messageId C.myUserId envelope.encryptedPayload
        header.messageNumber (header.kemCiphertext.getD []) header.oneTimePrekeyId
        (isSessionResetControlType envelope.contentType) envelope.contentType)
      ⟨C.myUserId, envelope.messageId, streamCursor, envelope.contentType,
        header.messageNumber⟩) := by
  have htype := contentTypeToU8_toNat envelope.contentType
  obtain hok | ⟨⟨e, herror⟩, rfl, hreset⟩ := hheader
  · simp [inboundCommand, resolveInboundEnvelope, forwarded, directEnvelopeMessageId, htype, hok,
      h.sender]
  · simp [inboundCommand, resolveInboundEnvelope, forwarded, directEnvelopeMessageId, htype, herror,
      h.sender, hreset]

namespace OrchestratorTask

variable {ε : Type} {X : Externals ε} {C : TaskConfig}

/-- At most envelopes of the account go into the channel. -/
def Queues (C : TaskConfig) (w w' : TaskWorld ε) : Prop :=
  ∃ envelopes : List Envelope, (∀ e ∈ envelopes, e.SignedBy C) ∧
    w'.streamTx = w.streamTx ++ envelopes.map .send

theorem queues_of_eq {w w' : TaskWorld ε} (h : w'.streamTx = w.streamTx) : Queues C w w' :=
  ⟨[], List.forall_mem_nil _, by simpa using h⟩

/-! ### Atomic steps -/

theorem query_queues {α : Type} (f : ε → α) : (query f).Keeps (Queues C) :=
  .read (fun _ => queues_of_eq rfl) _

theorem external_queues {α : Type} (f : ε → α × ε) : (external f).Keeps (Queues C) :=
  .act fun _ => queues_of_eq rfl

theorem sql_queues {α : Type} (f : Storage → α × Storage) : (sql X f).Keeps (Queues C) :=
  .act fun w => by
    unfold sqlStep
    split <;> exact queues_of_eq rfl

/-- A statement whose answer is ignored. -/
theorem exec_queues (f : Storage → Storage) :
    (exec X f >>= fun _ => (pure () : Prog (TaskWorld ε) Unit)).Keeps (Queues C) :=
  .bind (sql_queues _) fun _ => .pure _

/-- A write of a table, of the history or of another channel. -/
theorem update_queues {f : TaskWorld ε → TaskWorld ε} (h : ∀ w, (f w).streamTx = w.streamTx) :
    (Prog.update f).Keeps (Queues C) := .update fun w => queues_of_eq (h w)

theorem trySend_queues {envelope : Envelope} (h : envelope.SignedBy C) :
    (trySend X (.send envelope)).Keeps (Queues C) := by
  refine .update fun w => ?_
  by_cases hroom : (X.streamHasRoom w.ext).1 = true
  · exact ⟨[envelope], by simpa using h, by simp [hroom]⟩
  · exact queues_of_eq (by simp [hroom])

theorem uuidV4_queues : (uuidV4 X).Keeps (Queues C) :=
  .bind (external_queues _) fun _ => .pure _

theorem nowMsU64_queues : (nowMsU64 X).Keeps (Queues C) :=
  .bind (external_queues _) fun _ => .pure _

theorem pushFollowUp_queues (event : IncomingEvent) :
    (pushFollowUp event).Keeps (Queues (ε := ε) C) := update_queues fun _ => rfl

theorem sendUi_queues (event : BridgeEvent) : (sendUi event).Keeps (Queues (ε := ε) C) :=
  update_queues fun _ => rfl

theorem storeAndNotify_queues (contactId messageId text : String) :
    (storeAndNotify X contactId messageId text).Keeps (Queues C) :=
  (storeAndNotify_keeps contactId messageId text).mono fun _ _ h => by
    cases h <;> exact queues_of_eq rfl

/-! ### Carrying out an action -/

theorem surfaceFirst_queues (contactId firstMessageId : String) (firstPlaintext : Bytes) :
    (surfaceFirst X C contactId firstMessageId firstPlaintext).Keeps (Queues C) := by
  unfold surfaceFirst
  dsimp only
  split
  · exact storeAndNotify_queues ..
  · exact .pure _

theorem popFirst_queues (contactId : String) : (popFirst X contactId).Keeps (Queues C) := by
  refine .bind (external_queues _) fun id => ?_
  cases id with
  | some id => exact .pure _
  | none => exact uuidV4_queues

theorem initInitiatorFromJson_queues (contactId bundleJson : String) :
    (initInitiatorFromJson X contactId bundleJson).Keeps (Queues C) := by
  unfold initInitiatorFromJson
  split
  · exact .pure _
  · exact external_queues _

theorem fetchBundleJson_queues (userId : String) :
    (fetchBundleJson X userId).Keeps (Queues C) := by
  refine .bind (external_queues _) fun r => ?_
  cases r <;> exact .pure _

/-- A reset is written by the task itself. -/
theorem sendSessionReset_queues (contactId : String) :
    (sendSessionReset X C contactId).Keeps (Queues C) :=
  .bind uuidV4_queues fun _ => trySend_queues (signedBy_buildEnvelope C _ _ _ (by decide))

theorem finishInit_queues (contactId : String) : (finishInit X contactId).Keeps (Queues C) :=
  .bind (update_queues fun _ => rfl) fun _ => .bind nowMsU64_queues fun _ =>
    .bind (update_queues fun _ => rfl) fun _ => pushFollowUp_queues _

theorem initAsInitiator_queues (contactId bundleJson : String) :
    (initAsInitiator X contactId bundleJson).Keeps (Queues C) := by
  refine .bind (initInitiatorFromJson_queues _ _) fun r => ?_
  cases r with
  | error e => exact sendUi_queues _
  | ok _ => exact finishInit_queues _

theorem initSession_queues (contactId bundleJson : String) :
    (initSession X C contactId bundleJson).Keeps (Queues C) := by
  refine .bind (query_queues _) fun count => ?_
  split
  · refine .bind (query_queues _) fun wire => ?_
    cases wire with
    | none => exact initAsInitiator_queues _ _
    | some wire =>
      refine .bind (external_queues _) fun r => ?_
      cases r with
      | error e => exact .pure _
      | ok r =>
        exact .bind (popFirst_queues _) fun _ => .bind (update_queues fun _ => rfl) fun _ =>
          .bind (update_queues fun _ => rfl) fun _ => .bind (surfaceFirst_queues _ _ _) fun _ =>
            finishInit_queues _
  · exact initAsInitiator_queues _ _

theorem healAsInitiator_queues (contactId : String) :
    (healAsInitiator X C contactId).Keeps (Queues C) := by
  refine .bind (sendSessionReset_queues _) fun _ => .bind (fetchBundleJson_queues _) fun r => ?_
  cases r with
  | error e => exact .pure _
  | ok bundleJson =>
    refine .bind (initInitiatorFromJson_queues _ _) fun r => ?_
    cases r with
    | error e => exact .pure _
    | ok _ =>
      exact .bind (pushFollowUp_queues _) fun _ => .bind uuidV4_queues fun _ =>
        pushFollowUp_queues _

theorem healAsResponder_queues (contactId : String) :
    (healAsResponder X C contactId).Keeps (Queues C) := by
  refine .bind (external_queues _) fun wire => ?_
  cases wire with
  | none => exact .pure _
  | some wire =>
    refine .bind (fetchBundleJson_queues _) fun r => ?_
    cases r with
    | error e => exact .pure _
    | ok bundleJson =>
      refine .bind (external_queues _) fun r => ?_
      cases r with
      | error e => exact sendSessionReset_queues _
      | ok r =>
        exact .bind (popFirst_queues _) fun _ => .bind (update_queues fun _ => rfl) fun _ =>
          .bind (surfaceFirst_queues _ _ _) fun _ => pushFollowUp_queues _

theorem sessionHealNeeded_queues (contactId role : String) :
    (sessionHealNeeded X C contactId role).Keeps (Queues C) := by
  refine .bind (.read (fun _ => queues_of_eq rfl) _) fun inited => ?_
  split
  · exact .pure _
  · split
    · exact healAsInitiator_queues _
    · exact healAsResponder_queues _

theorem applySessionTerminated_queues (contactId : String) (archiveBytes : Bytes) :
    (applySessionTerminated X contactId archiveBytes).Keeps (Queues C) := by
  refine .bind (sql_queues _) fun r => ?_
  split
  · exact exec_queues _
  · exact .pure _

theorem applySecureStoreSave_queues (key : String) (data : Bytes) :
    (applySecureStoreSave X key data).Keeps (Queues C) :=
  .update fun w => by
    dsimp only [sqlStep]
    split <;> exact queues_of_eq rfl

theorem dispatch_queues (action : CoreAction) : (dispatch X C action).Keeps (Queues C) := by
  cases action with
  | initSession contactId bundleJson => exact initSession_queues _ _
  | messageDecrypted contactId messageId plaintext => exact storeAndNotify_queues _ _ _
  | sessionHealNeeded contactId role => exact sessionHealNeeded_queues _ _
  | messageQueuedPendingInit contactId messageId => exact update_queues fun _ => rfl
  | healSuppressed contactId retryAfterMs =>
    exact .bind (.act fun _ => queues_of_eq rfl) fun _ => .pure _
  | saveSessionToSecureStore key data => exact applySecureStoreSave_queues _ _
  | loadSessionFromSecureStore key =>
    exact .bind (sql_queues _) fun _ => pushFollowUp_queues _
  | persistMessage messageJson => exact exec_queues _
  | persistAck messageId timestamp => exact exec_queues _
  | pruneAckStore cutoffTs => exact exec_queues _
  | markMessageDelivered messageId => exact exec_queues _
  | checkAckInDb messageId => exact .bind (sql_queues _) fun _ => pushFollowUp_queues _
  | fetchPublicKeyBundle userId => exact .bind (.act fun _ => queues_of_eq rfl) fun _ => .pure _
  | sendEncryptedMessage recipient payload messageId contentType =>
    exact trySend_queues (signedBy_buildEnvelope C _ _ _ (contentTypeFromU8_mem _))
  | sendEndSession contactId =>
    exact trySend_queues (signedBy_buildEnvelope C _ _ _ (by decide))
  | sendHeartbeat contactId =>
    exact .bind uuidV4_queues fun _ => update_queues fun _ => rfl
  | notifyNewMessage chatId preview =>
    exact .bind (.bind nowMsU64_queues fun _ => .pure _) fun _ => update_queues fun _ => rfl
  | notifySessionCreated contactId => exact sendUi_queues _
  | notifyError code message => exact sendUi_queues _
  | scheduleTimer timerId delayMs =>
    exact .bind (.act fun _ => queues_of_eq rfl) fun _ => update_queues fun _ => rfl
  | cancelTimer timerId =>
    exact .update fun w => by split <;> exact queues_of_eq rfl
  | sessionTerminated contactId archiveBytes =>
    exact .bind (applySessionTerminated_queues _ _) fun _ => update_queues fun _ => rfl
  | decryptMessage | encryptMessage | applyPQContribution | archiveSession | callSignalDecrypted
  | endSessionSuppressed | sendReceipt | notifyLinkedDevicesOfSessionReset => exact .pure _

/-! ### The drivers -/

theorem handleEvent_queues (event : IncomingEvent) : (handleEvent X event).Keeps (Queues C) :=
  .act fun _ => queues_of_eq rfl

theorem deliverShallow_queues (event : IncomingEvent) :
    (deliverShallow X C event).Keeps (Queues C) :=
  .bind (handleEvent_queues event) fun _ => .bind (update_queues fun _ => rfl) fun _ =>
    .each dispatch_queues _

theorem deliver_queues (event : IncomingEvent) : (deliver X C event).Keeps (Queues C) := by
  refine .bind (deliverShallow_queues event) fun _ => .bind (.act fun _ => queues_of_eq rfl)
    fun followUps => .each (fun followUp => ?_) followUps
  refine .bind (handleEvent_queues followUp) fun more => .each (fun action => ?_) more
  exact .bind (.update fun _ => queues_of_eq rfl) fun _ => dispatch_queues action

theorem establishSession_queues (contactId : String) :
    (establishSession X C contactId).Keeps (Queues C) := by
  refine .bind (query_queues _) fun active => ?_
  split
  · exact .pure _
  · refine .bind (fetchBundleJson_queues _) fun r => ?_
    cases r with
    | error e => exact .pure _
    | ok bundleJson =>
      exact .bind (deliver_queues _) fun _ => .bind (query_queues _) fun _ => .pure _

theorem prepareActiveChat_queues (contactId : String) :
    (prepareActiveChat X C contactId).Keeps (Queues C) := by
  refine .bind (query_queues _) fun count => .bind (establishSession_queues _) fun r => ?_
  match r with
  | .ok true =>
    dsimp only
    split
    · exact .bind uuidV4_queues fun _ => deliverShallow_queues _
    · exact .pure _
  | .ok false => exact .pure _
  | .error e => exact sendUi_queues _

theorem prepareOutgoing_queues (event : IncomingEvent) :
    (prepareOutgoing X C event).Keeps (Queues C) := by
  unfold prepareOutgoing
  split
  · exact .bind (prepareActiveChat_queues _) fun _ => .pure _
  · refine .bind (query_queues _) fun active => ?_
    split
    · exact .pure _
    · refine .bind (establishSession_queues _) fun r => ?_
      cases r with
      | ok _ => exact .pure _
      | error e => exact .bind (sendUi_queues _) fun _ => .pure _
  · exact .pure _

/-- Handling an event puts at most envelopes of the account into the channel. -/
theorem handleRx_queues (event : IncomingEvent) : (handleRx X C event).Keeps (Queues C) := by
  refine .bind (prepareOutgoing_queues event) fun r => ?_
  cases r with
  | some event => exact deliver_queues event
  | none => exact .pure _

theorem forgetContact_queues (contactId : String) :
    (forgetContact X C contactId).Keeps (Queues C) := by
  refine .bind (deliverShallow_queues _) fun _ => .bind (external_queues _) fun _ =>
    .bind (update_queues fun _ => rfl) fun _ => .bind ?_ fun _ =>
      .bind (sql_queues _) fun _ => exec_queues _
  refine .bind (query_queues _) fun r => ?_
  cases r with
  | ok state => exact exec_queues _
  | error e => exact .pure _

theorem storeEffect_queues {w w' : TaskWorld ε} (h : StoreEffect w w') : Queues C w w' := by
  cases h <;> exact queues_of_eq rfl

/-- So does handling a command. -/
theorem handleCommand_queues (cmd : OrchestratorCommand) :
    (handleCommand X C cmd).Keeps (Queues C) := by
  cases cmd with
  | forgetContact contactId => exact forgetContact_queues contactId
  | streamMessage event context =>
    refine .bind (update_queues fun _ => rfl) fun _ =>
      .bind (.read (fun _ => queues_of_eq rfl) _) fun established => ?_
    split
    · exact .bind (update_queues fun _ => rfl) fun _ =>
        (persist_storeKeeps _).mono fun _ _ => storeEffect_queues
    · exact .bind ((note_storeKeeps _ _).mono fun _ _ => storeEffect_queues) fun _ =>
        deliver_queues event

end OrchestratorTask

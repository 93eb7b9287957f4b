import ConstructTui.Knst

/-!
# The messages between the parts of the client

What travels on the channels between the app, the orchestrator task and the stream worker, and
the events and actions of the messaging core. An action or an event of the core keeps the fields
that some handler reads; the identifiers of a queued message are kept for the histories of runs.

## Main definitions

* `Envelope`, `StreamCmd`, `BridgeEvent`.
* `IncomingEvent`, `CoreAction`: what the core takes and what it answers.
* `StreamMessageContext`, `OrchestratorCommand`.
-/

/-- An outgoing envelope, as `build_envelope` fills it. -/
structure Envelope where
  sender : String
  senderDevice : String
  recipient : String
  contentType : UInt8
  messageId : String
  encryptedPayload : Bytes
  conversationId : String
  deriving DecidableEq, Repr

/-- Commands to the stream worker. -/
inductive StreamCmd
  | send (envelope : Envelope)
  | subscribe (ids : List String) (cursor : Option String)
  | close
  | shutdown
  deriving DecidableEq, Repr

/-- Events from the background tasks to the app. -/
inductive BridgeEvent
  | newMessage (peerId messageId text : String) (timestampMs : ℤ)
  | messageDelivered (messageId : String)
  | streamStatus (connected : Bool)
  | streamReconnecting (attempt delayMs : ℕ)
  | error (message : String)
  | sessionReady (contactId : String)
  deriving DecidableEq, Repr

/-- Whether an event shows a message. -/
def BridgeEvent.isNewMessage : BridgeEvent → Bool
  | newMessage .. => true
  | _ => false

/-- Events the core takes. -/
inductive IncomingEvent
  | messageReceived (messageId sender : String) (data : Bytes) (msgNum : UInt32) (kemCt : Bytes)
      (otpkId : UInt32) (isControl : Bool) (contentType : UInt8)
  | ackReceived (messageId : String)
  | outgoingMessage (contactId messageId : String) (plaintext : Bytes) (contentType : UInt8)
  | activeChatChanged (contactId : String) (isActive : Bool)
  | sessionInitCompleted (contactId : String) (sessionData : Bytes)
  | sessionLoaded (key : String) (data : Option Bytes)
  | ackDbResult (messageId : String) (isProcessed : Bool)
  | keyBundleFetched (userId bundleJson : String)
  | timerFired (timerId : String)
  | appLaunched
  | networkReconnected
  deriving DecidableEq, Repr

/-- Actions the core answers with. -/
inductive CoreAction
  | initSession (contactId bundleJson : String)
  | decryptMessage
  | encryptMessage
  | applyPQContribution
  | archiveSession
  | messageDecrypted (contactId messageId : String) (plaintext : Bytes)
  | callSignalDecrypted
  | endSessionSuppressed
  | messageQueuedPendingInit (contactId messageId : String)
  | sessionHealNeeded (contactId role : String)
  | healSuppressed (contactId : String) (retryAfterMs : UInt64)
  | saveSessionToSecureStore (key : String) (data : Bytes)
  | loadSessionFromSecureStore (key : String)
  | persistMessage (messageJson : String)
  | persistAck (messageId : String) (timestamp : UInt64)
  | pruneAckStore (cutoffTs : UInt64)
  | markMessageDelivered (messageId : String)
  | checkAckInDb (messageId : String)
  | fetchPublicKeyBundle (userId : String)
  | sendEncryptedMessage (recipient : String) (payload : Bytes) (messageId : String)
      (contentType : UInt8)
  | sendReceipt (messageId : String)
  | sendEndSession (contactId : String)
  | sendHeartbeat (contactId : String)
  | notifyNewMessage (chatId preview : String)
  | notifySessionCreated (contactId : String)
  | notifyError (code message : String)
  | notifyLinkedDevicesOfSessionReset
  | scheduleTimer (timerId : String) (delayMs : UInt64)
  | cancelTimer (timerId : String)
  | sessionTerminated (contactId : String) (archiveBytes : Bytes)
  deriving DecidableEq, Repr

/-- What the stream says about an inbound message besides its content. -/
structure StreamMessageContext where
  contactId : String
  messageId : String
  streamCursor : Option String
  contentType : UInt8
  msgNum : UInt32
  deriving DecidableEq, Repr

def StreamMessageContext.isReplaySensitive (context : StreamMessageContext) : Bool :=
  context.msgNum = 0 || context.contentType = ContentType.sessionReset ||
    context.contentType = ContentType.sessionResetInit

/-- Commands to the orchestrator task. -/
inductive OrchestratorCommand
  | forgetContact (contactId : String)
  | streamMessage (event : IncomingEvent) (context : StreamMessageContext)
  deriving DecidableEq, Repr

/-! ### Envelopes -/

/-- Both sides name a conversation alike, whoever writes. -/
def conversationId (fromUser toUser : String) : String :=
  if fromUser < toUser then "direct:" ++ fromUser ++ ":" ++ toUser
  else "direct:" ++ toUser ++ ":" ++ fromUser

def buildEnvelope (fromUser fromDevice toUser : String) (payload : Bytes) (messageId : String)
    (contentType : UInt8) : Envelope where
  sender := fromUser
  senderDevice := fromDevice
  recipient := toUser
  contentType := contentType
  messageId := messageId
  encryptedPayload := payload
  conversationId := conversationId fromUser toUser

def buildControlEnvelope (fromUser fromDevice toUser : String) (contentType : UInt8)
    (payload : Bytes) (messageId : String) : Envelope :=
  buildEnvelope fromUser fromDevice toUser payload messageId contentType

def contentTypeFromU8 (v : UInt8) : UInt8 :=
  if v = 1 then ContentType.e2eeSignal
  else if v = 12 then ContentType.callSignal
  else if v = 20 then ContentType.keyExchange
  else if v = 21 then ContentType.sessionReset
  else if v = 24 then ContentType.sessionResetInit
  else ContentType.e2eeSignal

/-- The two ends of a conversation agree on its name. -/
theorem conversationId_comm (a b : String) : conversationId a b = conversationId b a := by
  unfold conversationId
  by_cases h : a < b
  · rw [if_pos h, if_neg (String.lt_asymm h)]
  · by_cases h' : b < a
    · rw [if_neg h, if_pos h']
    · rw [String.le_antisymm (String.not_lt.mp h') (String.not_lt.mp h)]

import ConstructTui.Stream.Worker

/-!
# Resolving inbound envelopes

An envelope from the stream is resolved to a sender and a payload before the orchestrator sees it.
A sealed envelope masks its sender, which a certificate inside names. Protobuf decoding, the
unsealing and the unpacking of the payload are parameters.

## Main definitions

* `EnvelopeCodec`, `InboundEnvelope`.
* `resolveInboundEnvelope`, `inboundCommand`: what the orchestrator is given for an envelope.
-/

/-- The protected part of a sealed envelope. -/
structure SealedInner where
  senderCertCiphertext : Bytes
  encryptedPayload : Bytes
  contentType : ℤ
  deriving DecidableEq, Repr

/-- What the header of a payload says. -/
structure WireHeader where
  messageNumber : UInt32
  kemCiphertext : Option Bytes
  oneTimePrekeyId : UInt32
  deriving DecidableEq, Repr

/-- The decoders that lie outside. -/
structure EnvelopeCodec where
  sealedInner : Bytes → Except String SealedInner
  unsealSenderCert : Bytes → Bytes → Except String Bytes
  senderUserId : Bytes → Except String String
  unpack : Bytes → Except String WireHeader

/-- An envelope whose sender is known. -/
structure InboundEnvelope where
  messageId : String
  sender : String
  wirePayload : Bytes
  contentType : UInt8
  isSealed : Bool
  deriving DecidableEq, Repr

def directEnvelopeMessageId (envelope : WireEnvelope) : String :=
  match envelope.messageIdType with
  | some (.messageId id) => id
  | some .groupMessageId | none => ""

def contentTypeToU8 (contentType : ℤ) : UInt8 :=
  if 0 ≤ contentType ∧ contentType < 256 then UInt8.ofNat contentType.toNat else 0

def isSessionResetControlType (contentType : UInt8) : Bool :=
  contentType = ContentType.sessionReset || contentType = ContentType.sessionResetInit

/-- The sender, payload and type of an envelope; everything in a sealed one comes from inside. -/
def resolveInboundEnvelope (codec : EnvelopeCodec) (envelope : WireEnvelope)
    (identitySecret : Bytes) : Except String InboundEnvelope :=
  let messageId := directEnvelopeMessageId envelope
  match envelope.sealedSender with
  | none =>
    .ok { messageId, sender := envelope.sender.getD "", wirePayload := envelope.encryptedPayload,
          contentType := contentTypeToU8 envelope.contentType, isSealed := false }
  | some sealed => do
    let inner ← (codec.sealedInner sealed).mapError ("sealed inner decode failed: " ++ ·)
    let cert ← (codec.unsealSenderCert inner.senderCertCiphertext identitySecret).mapError
      ("sealed sender cert unseal failed: " ++ ·)
    let sender ← (codec.senderUserId cert).mapError ("sender certificate decode failed: " ++ ·)
    if sender = "" then
      throw "sender certificate has empty sender_user_id"
    let wirePayload :=
      if envelope.encryptedPayload.isEmpty then inner.encryptedPayload
      else envelope.encryptedPayload
    if wirePayload.isEmpty then
      throw "sealed inner encrypted_payload is empty"
    return { messageId, sender, wirePayload, contentType := contentTypeToU8 inner.contentType,
             isSealed := true }

/-- The command an envelope becomes; one that does not unpack is dropped unless it resets a
session. -/
def inboundCommand (codec : EnvelopeCodec) (identitySecret : Bytes) (envelope : WireEnvelope)
    (streamCursor : Option String) : Option OrchestratorCommand :=
  match resolveInboundEnvelope codec envelope identitySecret with
  | .error _ => none
  | .ok inbound =>
    let command (header : WireHeader) (isControl : Bool) : OrchestratorCommand :=
      .streamMessage
        (.messageReceived inbound.messageId inbound.sender inbound.wirePayload header.messageNumber
          (header.kemCiphertext.getD []) header.oneTimePrekeyId isControl inbound.contentType)
        { contactId := inbound.sender, messageId := inbound.messageId, streamCursor,
          contentType := inbound.contentType, msgNum := header.messageNumber }
    match codec.unpack inbound.wirePayload with
    | .ok header => some (command header (isSessionResetControlType inbound.contentType))
    | .error _ =>
      if isSessionResetControlType inbound.contentType then some (command ⟨0, none, 0⟩ true)
      else none

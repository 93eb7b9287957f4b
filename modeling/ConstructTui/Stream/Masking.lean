import ConstructTui.Stream.Relay

/-!
# What a sealed envelope masks

The outer fields of a sealed envelope are not protected, and what the envelope says is to come from
inside. That holds of its sender and its type. The payload outside takes the place of the one inside
when there is one.

## Main definitions

* `openSealed`, `resolveSealed`: what a sealed part says by itself.
* `PayloadMasked`: the payload outside makes no difference.

## Main results

* `resolveInboundEnvelope_masked_iff`: two envelopes around one sealed part resolve to what it says
  exactly when the payload of neither makes a difference.
-/

/-- The protected part, and the sender that its certificate names. -/
def openSealed (codec : EnvelopeCodec) (sealed identitySecret : Bytes) :
    Except String (SealedInner × String) := do
  let inner ← (codec.sealedInner sealed).mapError ("sealed inner decode failed: " ++ ·)
  let cert ← (codec.unsealSenderCert inner.senderCertCiphertext identitySecret).mapError
    ("sealed sender cert unseal failed: " ++ ·)
  let sender ← (codec.senderUserId cert).mapError ("sender certificate decode failed: " ++ ·)
  if sender = "" then
    throw "sender certificate has empty sender_user_id"
  return (inner, sender)

/-- The envelope of a sender and a type from inside, with a payload. -/
def sealedEnvelope (messageId : String) (inner : SealedInner) (sender : String)
    (wirePayload : Bytes) : Except String InboundEnvelope := do
  if wirePayload.isEmpty then
    throw "sealed inner encrypted_payload is empty"
  return { messageId, sender, wirePayload, contentType := contentTypeToU8 inner.contentType,
           isSealed := true }

/-- What a sealed part says by itself. -/
def resolveSealed (codec : EnvelopeCodec) (messageId : String) (sealed identitySecret : Bytes) :
    Except String InboundEnvelope := do
  let (inner, sender) ← openSealed codec sealed identitySecret
  sealedEnvelope messageId inner sender inner.encryptedPayload

/-- The payload outside is missing or the one inside, if the sealed part names a sender. -/
def PayloadMasked (codec : EnvelopeCodec) (sealed identitySecret payload : Bytes) : Prop :=
  ∀ inner sender, openSealed codec sealed identitySecret = .ok (inner, sender) →
    payload = [] ∨ payload = inner.encryptedPayload

variable {codec : EnvelopeCodec} {identitySecret : Bytes} {envelope envelope' : WireEnvelope}
  {sealed : Bytes}

/-- A sealed envelope is resolved from its sealed part and its own payload. -/
theorem resolveInboundEnvelope_sealed (h : envelope.sealedSender = some sealed) :
    resolveInboundEnvelope codec envelope identitySecret = (do
      let (inner, sender) ← openSealed codec sealed identitySecret
      sealedEnvelope (directEnvelopeMessageId envelope) inner sender
        (if envelope.encryptedPayload.isEmpty then inner.encryptedPayload
          else envelope.encryptedPayload)) := by
  unfold resolveInboundEnvelope openSealed
  rw [h]
  simp only [bind_assoc]
  refine bind_congr fun inner => bind_congr fun cert => bind_congr fun sender => ?_
  by_cases hsender : sender = ""
  · rw [if_pos hsender, if_pos hsender]
    rfl
  · rw [if_neg hsender, if_neg hsender]
    rfl

/-- The payload of an envelope shows in what it resolves to. -/
theorem sealedEnvelope_inj {messageId : String} {inner : SealedInner} {sender : String}
    {payload payload' : Bytes} :
    sealedEnvelope messageId inner sender payload = sealedEnvelope messageId inner sender payload' ↔
      payload = payload' := by
  refine ⟨fun h => ?_, congrArg _⟩
  cases payload with
  | nil => cases payload' with
    | nil => rfl
    | cons => cases h
  | cons b bs => cases payload' with
    | nil => cases h
    | cons => exact congrArg InboundEnvelope.wirePayload (Except.ok.inj h)

/-- An envelope resolves to what its sealed part says exactly when its payload makes no
difference. -/
theorem resolveInboundEnvelope_eq_sealed_iff (h : envelope.sealedSender = some sealed) :
    resolveInboundEnvelope codec envelope identitySecret =
        resolveSealed codec (directEnvelopeMessageId envelope) sealed identitySecret ↔
      PayloadMasked codec sealed identitySecret envelope.encryptedPayload := by
  rw [resolveInboundEnvelope_sealed h]
  unfold resolveSealed PayloadMasked
  cases openSealed codec sealed identitySecret with
  | error e => exact iff_of_true rfl fun _ _ h => by cases h
  | ok parts =>
    obtain ⟨inner, sender⟩ := parts
    have hpayload : (if envelope.encryptedPayload.isEmpty then inner.encryptedPayload
        else envelope.encryptedPayload) = inner.encryptedPayload ↔
        envelope.encryptedPayload = [] ∨ envelope.encryptedPayload = inner.encryptedPayload := by
      cases envelope.encryptedPayload with
      | nil => exact iff_of_true rfl (.inl rfl)
      | cons b bs => exact ⟨.inr, fun h => h.resolve_left (List.cons_ne_nil b bs)⟩
    refine sealedEnvelope_inj.trans (hpayload.trans ⟨?_, ?_⟩)
    · rintro hmasked inner' sender' hparts
      obtain ⟨rfl, rfl⟩ := Prod.mk.inj (Except.ok.inj hparts)
      exact hmasked
    · exact fun hmasked => hmasked inner sender rfl

/-- **Two envelopes around one sealed part resolve alike, to what it says, exactly when the payload
of neither makes a difference.** -/
theorem resolveInboundEnvelope_masked_iff (h : envelope.sealedSender = some sealed)
    (h' : envelope'.sealedSender = some sealed)
    (hid : directEnvelopeMessageId envelope = directEnvelopeMessageId envelope') :
    (resolveInboundEnvelope codec envelope identitySecret =
        resolveInboundEnvelope codec envelope' identitySecret ∧
      resolveInboundEnvelope codec envelope identitySecret =
        resolveSealed codec (directEnvelopeMessageId envelope) sealed identitySecret) ↔
      PayloadMasked codec sealed identitySecret envelope.encryptedPayload ∧
        PayloadMasked codec sealed identitySecret envelope'.encryptedPayload := by
  rw [← resolveInboundEnvelope_eq_sealed_iff h, ← resolveInboundEnvelope_eq_sealed_iff h', ← hid]
  constructor
  · rintro ⟨halike, hsealed⟩
    exact ⟨hsealed, halike.symm.trans hsealed⟩
  · rintro ⟨hsealed, hsealed'⟩
    exact ⟨hsealed.trans hsealed'.symm, hsealed⟩

/-! ### A payload beside the sealed one -/

/-- A sealed part with the payload `1 2 3 4` and the certificate of `sender-user`. -/
def senderCodec : EnvelopeCodec where
  sealedInner _ := .ok ⟨[9], [1, 2, 3, 4], 13⟩
  unsealSenderCert _ _ := .ok [7]
  senderUserId _ := .ok "sender-user"
  unpack _ := .error "header"

/-- An envelope around it. -/
def aroundSealed (sender : Option String) (contentType : ℤ) (payload : Bytes) : WireEnvelope :=
  ⟨some (.messageId "msg-1"), sender, contentType, payload, some [5]⟩

/-- An outer sender and type make no difference. -/
theorem resolveInboundEnvelope_masked_sender :
    resolveInboundEnvelope senderCodec (aroundSealed none 1 []) [] =
        resolveInboundEnvelope senderCodec (aroundSealed (some "mallory") 21 []) [] ∧
      resolveInboundEnvelope senderCodec (aroundSealed none 1 []) [] =
        resolveSealed senderCodec "msg-1" [5] [] :=
  (resolveInboundEnvelope_masked_iff rfl rfl rfl).mpr ⟨fun _ _ _ => .inl rfl, fun _ _ _ => .inl rfl⟩

/-- An outer payload is taken for the one inside. -/
theorem resolveInboundEnvelope_outer_payload :
    resolveInboundEnvelope senderCodec (aroundSealed none 1 []) [] =
        .ok ⟨"msg-1", "sender-user", [1, 2, 3, 4], 13, true⟩ ∧
      resolveInboundEnvelope senderCodec (aroundSealed none 1 [6, 6, 6]) [] =
        .ok ⟨"msg-1", "sender-user", [6, 6, 6], 13, true⟩ := by
  decide

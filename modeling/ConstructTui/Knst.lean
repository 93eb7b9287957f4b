import ConstructTui.Lib.BigEndian
import ConstructTui.Storage

/-!
# KNST plaintext frames

A plaintext is a frame when it starts with the 30-byte header: the magic bytes, the version, the
content type, sixteen bytes of message id, chunk index and count, and the length of the payload.
Chat text travels as a `MessageContent` inside a frame, and anything else is read as UTF-8.

The generated protobuf code and the `uuid` crate are parameters: `Proto` holds the content types
whose numbers the repository does not show, the codec of `MessageContent`, and the laws of both.

## Main definitions

* `Proto`, `Proto.tagged`, `Knst.frameWhole`, `Knst.encodeText`, `Knst.encodeSessionPing`.
* `Knst.isFrame`, `Knst.decodeText`, `Knst.Disposition`, `Knst.disposition`.

## Main results

* `Knst.decodeText_encodeText`: framed chat text is read back.
* `Knst.decodeText_encode`: so is bare UTF-8 that is no frame.
* `Knst.decodeText_of_silent`: a control frame is read as the empty text.
* `Knst.decodeText_ne_of_isFrame`: no text that is itself a frame is read back.
-/

/-- The external encodings the client relies on. `decodeMessageContent` gives the text of a
payload that decodes to a `MessageContent` with a text in it. -/
structure Proto where
  heartbeat : UInt8
  deliveryReceipt : UInt8
  senderSync : UInt8
  sessionReady : UInt8
  encodeMessageContent : String → Bytes
  decodeMessageContent : Bytes → Option String
  encodeSessionControl : String → Bytes
  parseUuid : String → Option { bs : Bytes // bs.length = 16 }
  contentTypes_nodup :
    [1, 12, 20, 21, 24, 25, heartbeat, deliveryReceipt, senderSync, sessionReady].Nodup
  decode_encode (text : String) : decodeMessageContent (encodeMessageContent text) = some text
  encode_length_le {payload : Bytes} {text : String} :
    decodeMessageContent payload = some text → (Utf8.encode text).length ≤ payload.length

/-- A codec with the laws of the real one: one tag byte before the text. -/
def Proto.tagged : Proto where
  heartbeat := 13
  deliveryReceipt := 14
  senderSync := 23
  sessionReady := 26
  encodeMessageContent text := 0x0A :: Utf8.encode text
  decodeMessageContent
    | 0x0A :: bs => Utf8.decode? bs
    | _ => none
  encodeSessionControl nonce := 0x12 :: Utf8.encode nonce
  parseUuid _ := none
  contentTypes_nodup := by decide
  decode_encode text := Utf8.decode?_encode text
  encode_length_le h := by
    split at h
    · rw [Utf8.encode_of_decode? h]
      exact Nat.le_succ _
    · cases h

namespace ContentType

/-! ### Content types whose numbers the source shows -/

def e2eeSignal : UInt8 := 1
def callSignal : UInt8 := 12
def keyExchange : UInt8 := 20
def sessionReset : UInt8 := 21
def sessionResetInit : UInt8 := 24
def sessionPing : UInt8 := 25

end ContentType

open BigEndian

namespace Knst

variable (P : Proto)

/-- `b"KNST"`. -/
def magic : Bytes := [0x4B, 0x4E, 0x53, 0x54]

def version : UInt8 := 0x01

def headerSize : ℕ := 30

/-! ### Frames -/

/-- A frame that is never split. An id that is not a UUID counts as the nil UUID. -/
def frameWhole (payload : Bytes) (contentType : UInt8) (messageId : String) : Bytes :=
  let uuid := match P.parseUuid messageId with
    | some bs => bs.val
    | none => List.replicate 16 0
  magic ++ [version, contentType] ++ uuid ++ be16 0 ++ be16 1 ++ be32 payload.length ++ payload

/-- Chat text, wrapped as `MessageContent`. -/
def encodeText (text messageId : String) : Bytes :=
  frameWhole P (P.encodeMessageContent text) ContentType.e2eeSignal messageId

/-- The ping that lets the peer become responder. -/
def encodeSessionPing (messageId : String) : Bytes :=
  frameWhole P (P.encodeSessionControl messageId) ContentType.sessionPing messageId

/-- Whether the data already has a version 1 header. -/
def isFrame (data : Bytes) : Bool :=
  headerSize ≤ data.length && magic.isPrefixOf data && data.getD 4 0 = version

/-- What a client must do with the payload behind a content type. -/
inductive Disposition
  | transcriptIncoming
  | transcriptOwnDevice
  | silentControl
  | notCarried
  deriving DecidableEq, Repr

def disposition (contentType : UInt8) : Disposition :=
  if contentType = ContentType.e2eeSignal then .transcriptIncoming
  else if contentType = P.senderSync then .transcriptOwnDevice
  else if contentType = ContentType.callSignal ∨ contentType = P.heartbeat ∨
      contentType = P.deliveryReceipt ∨ contentType = ContentType.sessionReset ∨
      contentType = ContentType.sessionResetInit ∨ contentType = ContentType.sessionPing ∨
      contentType = P.sessionReady then .silentControl
  else .notCarried

def isSilentType (contentType : UInt8) : Bool := disposition P contentType = .silentControl

/-- The payload of a frame: as many bytes as the header declares, if there are that many. -/
def framePayload (data : Bytes) : Bytes :=
  let raw := data.drop headerSize
  raw.take (min (ofBe ((data.drop 26).take 4)) raw.length)

/-- The displayable text of a decrypted plaintext; control types give the empty text. -/
def decodeText (plaintext : Bytes) : String :=
  if !isFrame plaintext then Utf8.decodeLossy plaintext
  else if isSilentType P (plaintext.getD 5 0) then ""
  else match P.decodeMessageContent (framePayload plaintext) with
    | some text => text
    | none => Utf8.decodeLossy (framePayload plaintext)

/-! ### What the header says -/

/-- A frame of this client: its header bytes one by one. -/
theorem exists_frameWhole (payload : Bytes) (contentType : UInt8) (messageId : String) :
    ∃ uuid : Bytes, uuid.length = 16 ∧ frameWhole P payload contentType messageId =
      0x4B :: 0x4E :: 0x53 :: 0x54 :: version :: contentType ::
        (uuid ++ (be16 0 ++ (be16 1 ++ (be32 payload.length ++ payload)))) := by
  unfold frameWhole
  cases P.parseUuid messageId with
  | some bs => exact ⟨bs.val, bs.property, by simp [magic]⟩
  | none => exact ⟨List.replicate 16 0, by simp, by simp [magic]⟩

theorem isFrame_frameWhole (payload : Bytes) (contentType : UInt8) (messageId : String) :
    isFrame (frameWhole P payload contentType messageId) := by
  obtain ⟨uuid, hlen, heq⟩ := exists_frameWhole P payload contentType messageId
  simp [heq, isFrame, headerSize, magic, hlen, be16, be32, List.isPrefixOf]
  omega

theorem contentType_frameWhole (payload : Bytes) (contentType : UInt8) (messageId : String) :
    (frameWhole P payload contentType messageId).getD 5 0 = contentType := by
  obtain ⟨uuid, -, heq⟩ := exists_frameWhole P payload contentType messageId
  simp [heq]

/-- The header of a frame up to its length field takes 26 bytes. -/
theorem exists_frameWhole_length (payload : Bytes) (contentType : UInt8) (messageId : String) :
    ∃ header : Bytes, header.length = 26 ∧
      frameWhole P payload contentType messageId = header ++ (be32 payload.length ++ payload) := by
  obtain ⟨uuid, hlen, heq⟩ := exists_frameWhole P payload contentType messageId
  refine ⟨0x4B :: 0x4E :: 0x53 :: 0x54 :: version :: contentType ::
    (uuid ++ (be16 0 ++ be16 1)), by simp [hlen, be16], ?_⟩
  rw [heq]
  simp only [List.cons_append, List.append_assoc]

theorem framePayload_frameWhole {payload : Bytes} (h : payload.length < 2 ^ 32)
    (contentType : UInt8) (messageId : String) :
    framePayload (frameWhole P payload contentType messageId) = payload := by
  obtain ⟨header, hlen, heq⟩ := exists_frameWhole_length P payload contentType messageId
  have hbe : (be32 payload.length).length = 4 := rfl
  have h₂₆ : (header ++ (be32 payload.length ++ payload)).drop 26 =
      be32 payload.length ++ payload :=
    List.drop_left' hlen
  have h₃₀ : (header ++ (be32 payload.length ++ payload)).drop headerSize = payload := by
    rw [show headerSize = 26 + 4 from rfl, ← List.drop_drop, h₂₆, List.drop_left' hbe]
  simp only [framePayload, heq, h₂₆, h₃₀, List.take_left' hbe, ofBe_be32 h, min_self,
    List.take_length]

/-! ### Reading back -/

theorem isSilentType_e2eeSignal : isSilentType P ContentType.e2eeSignal = false := rfl

/-- Framed chat text is read back, as long as its length fits the header. -/
theorem decodeText_encodeText {text messageId : String}
    (h : (P.encodeMessageContent text).length < 2 ^ 32) :
    decodeText P (encodeText P text messageId) = text := by
  simp only [decodeText, encodeText, isFrame_frameWhole, contentType_frameWhole,
    isSilentType_e2eeSignal, framePayload_frameWhole P h, P.decode_encode, Bool.not_true,
    Bool.false_eq_true, if_false]

/-- Bare UTF-8 is read as it stands. -/
theorem decodeText_encode {text : String} (h : isFrame (Utf8.encode text) = false) :
    decodeText P (Utf8.encode text) = text := by
  simp only [decodeText, h, Bool.not_false, if_true, Utf8.decodeLossy_encode]

/-- A control frame is read as the empty text. -/
theorem decodeText_of_silent {plaintext : Bytes} (hf : isFrame plaintext)
    (hs : disposition P (plaintext.getD 5 0) = .silentControl) : decodeText P plaintext = "" := by
  simp only [decodeText, isSilentType, hf, hs, Bool.not_true, decide_true, if_true,
    Bool.false_eq_true, if_false]

/-- The session ping is a control type. -/
theorem disposition_sessionPing : disposition P ContentType.sessionPing = .silentControl := by
  have h : P.senderSync ≠ 25 := by
    have := P.contentTypes_nodup
    simp only [List.nodup_cons, List.mem_cons] at this
    grind
  simp [disposition, ContentType.sessionPing, ContentType.e2eeSignal, Ne.symm h]

/-- A session ping of this client is read as the empty text. -/
theorem decodeText_encodeSessionPing (messageId : String) :
    decodeText P (encodeSessionPing P messageId) = "" := by
  refine decodeText_of_silent P (isFrame_frameWhole ..) ?_
  rw [encodeSessionPing, contentType_frameWhole]
  exact disposition_sessionPing P

/-! ### Text that is itself a frame -/

theorem length_of_isFrame {data : Bytes} (h : isFrame data) : 30 ≤ data.length := by
  simp only [isFrame, Bool.and_eq_true] at h
  exact of_decide_eq_true h.1.1

theorem length_framePayload_lt {data : Bytes} (h : isFrame data) :
    (framePayload data).length < data.length := by
  have hlen := length_of_isFrame h
  simp only [framePayload, headerSize, List.length_take, List.length_drop]
  omega

/-- The bytes of a frame start with the `K` of the magic bytes. -/
theorem exists_cons_of_isFrame {data : Bytes} (h : isFrame data) : ∃ rest, data = 0x4B :: rest := by
  simp only [isFrame, Bool.and_eq_true, magic] at h
  match data, h.1.2 with
  | b :: rest, hp =>
    simp only [List.isPrefixOf, Bool.and_eq_true, beq_iff_eq] at hp
    exact ⟨rest, by rw [hp.1]⟩

/-- Reading the payload of a text that is itself a frame as UTF-8 never gives the whole text:
the payload would have to start with the `K` of the magic bytes, hence at a character of the
text, and the eight characters before it cannot come back. -/
theorem decodeLossy_framePayload_ne {text : String} (h : isFrame (Utf8.encode text)) :
    Utf8.decodeLossy (framePayload (Utf8.encode text)) ≠ text := by
  intro heq
  obtain ⟨rest, hrest⟩ := exists_cons_of_isFrame h
  have hchars : Utf8.decodeLossyChars (Utf8.encode text) = text.toList := by
    have hd := congrArg String.toList (Utf8.decodeLossy_encode text)
    rwa [Utf8.decodeLossy, String.toList_ofList] at hd
  obtain ⟨cs, hcs⟩ : ∃ cs, text.toList = 'K' :: cs := by
    rw [← hchars, hrest]
    exact ⟨_, rfl⟩
  have hhead : Utf8.decodeLossyChars (framePayload (Utf8.encode text)) = 'K' :: cs := by
    rw [← hcs, ← congrArg String.toList heq, Utf8.decodeLossy, String.toList_ofList]
  obtain ⟨b, Q, hpay, hb⟩ := Utf8.decodeLossyChars_head_ascii hhead (by decide)
  replace hb : b.toNat = 75 := hb
  -- the payload is a cut of the bytes from position 30 on
  obtain ⟨k, hk⟩ : ∃ k, framePayload (Utf8.encode text) = ((Utf8.encode text).drop 30).take k :=
    ⟨_, rfl⟩
  obtain ⟨Q', hQ'⟩ : ∃ Q', (Utf8.encode text).drop 30 = b :: Q' := by
    rw [hk] at hpay
    cases hdrop : (Utf8.encode text).drop 30 with
    | nil => simp [hdrop] at hpay
    | cons b' Q' =>
      cases k with
      | zero => simp at hpay
      | succ k =>
        rw [hdrop, List.take_succ_cons] at hpay
        exact ⟨Q', by rw [(List.cons.inj hpay).1]⟩
  obtain ⟨A, B, hAB, hA, hB⟩ := Utf8.split_at_ascii (b := b) (Q := Q') (by omega) text.toList
    ((Utf8.encode text).take 30) (by rw [← hQ', List.take_append_drop]; rfl)
  have hA₈ : 30 ≤ 4 * A.length := by
    have hle := Utf8.encodeChars_length_le A
    have hlen := length_of_isFrame h
    rw [hA, List.length_take] at hle
    omega
  have hB₂ := Utf8.length_decodeLossy_take_le B k
  rw [hB, ← hQ', ← hk, heq, hAB, List.length_append] at hB₂
  omega

/-- No text that is itself a frame is read back. -/
theorem decodeText_ne_of_isFrame {text : String} (h : isFrame (Utf8.encode text)) :
    decodeText P (Utf8.encode text) ≠ text := by
  have hne : text ≠ "" := by
    rintro rfl
    simp [isFrame, headerSize, Utf8.encode] at h
  unfold decodeText
  simp only [h, Bool.not_true, Bool.false_eq_true, if_false]
  split_ifs with hs
  · exact hne.symm
  · split
    · rename_i t ht
      rintro rfl
      have h₁ := P.encode_length_le ht
      have h₂ := length_framePayload_lt h
      omega
    · exact decodeLossy_framePayload_ne h

end Knst

import ConstructTui.Lib.Checked
import ConstructTui.Orchestrator.Task

/-!
# Frames around plaintexts

The encoder, the test for a frame, the decoder and the step that wraps an outgoing plaintext all
know the offsets of the header. They agree: what the encoder writes passes the test, is read back
whatever comes after it, and is not wrapped again. The decoder cuts at offsets, and never outside
its data.

## Main definitions

* `Knst.uuidBytes`, `Knst.Header`: what the header of a frame says.
* `Knst.Sliced.isFrame`, `Knst.Sliced.decodeText`: what can panic.
* `OrchestratorTask.LeftAlone`: what goes out as it is.

## Main results

* `Knst.header_frameWhole`: the header of what the encoder writes.
* `Knst.Sliced.decodeText_eq`: decoding never panics.
* `OrchestratorTask.framing`: frames are read back and made once.
-/

namespace Knst

open BigEndian

variable {P : Proto}

/-! ### The header -/

/-- The bytes of a message id; one that is no UUID has those of the nil UUID. -/
def uuidBytes (P : Proto) (messageId : String) : Bytes :=
  ((P.parseUuid messageId).map Subtype.val).getD (List.replicate 16 0)

/-- A header of version 1 for the only chunk of a message. -/
structure Header (frame : Bytes) (contentType : UInt8) (uuid payload : Bytes) : Prop where
  magic : frame.take 4 = magic
  version : frame[4]? = some 1
  contentType : frame[5]? = some contentType
  uuid : (frame.drop 6).take 16 = uuid
  chunkIndex : (frame.drop 22).take 2 = be16 0
  totalChunks : (frame.drop 24).take 2 = be16 1
  length : ofBe ((frame.drop 26).take 4) = payload.length
  payload : (frame.drop headerSize).take payload.length = payload

theorem length_uuidBytes (messageId : String) : (uuidBytes P messageId).length = 16 := by
  unfold uuidBytes
  cases P.parseUuid messageId with
  | none => rfl
  | some bs => exact bs.property

/-- A frame, its header bytes one by one. -/
theorem frameWhole_eq (payload : Bytes) (contentType : UInt8) (messageId : String) :
    frameWhole P payload contentType messageId = magic ++ ([1, contentType] ++
      (uuidBytes P messageId ++ (be16 0 ++ (be16 1 ++ (be32 payload.length ++ payload))))) := by
  unfold frameWhole uuidBytes
  cases P.parseUuid messageId <;> simp [version]

/-- Whatever comes after it, a frame has the header of its payload. -/
theorem header_frameWhole {payload : Bytes} (h : payload.length < 2 ^ 32) (contentType : UInt8)
    (messageId : String) (suffix : Bytes) :
    Header (frameWhole P payload contentType messageId ++ suffix) contentType
      (uuidBytes P messageId) payload := by
  have huuid := length_uuidBytes (P := P) messageId
  let body := be32 payload.length ++ (payload ++ suffix)
  have hframe : frameWhole P payload contentType messageId ++ suffix =
      0x4B :: 0x4E :: 0x53 :: 0x54 :: 1 :: contentType ::
        (uuidBytes P messageId ++ (0 :: 0 :: 0 :: 1 :: body)) := by
    rw [frameWhole_eq]
    simp [magic, be16, body]
  have htail : (frameWhole P payload contentType messageId ++ suffix).drop 22 =
      0 :: 0 :: 0 :: 1 :: body := by
    rw [hframe]
    exact List.drop_left' huuid
  have hbody : (frameWhole P payload contentType messageId ++ suffix).drop 26 = body := by
    rw [show 26 = 22 + 4 from rfl, ← List.drop_drop, htail]
    rfl
  refine ⟨?_, ?_, ?_, ?_, ?_, ?_, ?_, ?_⟩
  · rw [hframe]
    rfl
  · rw [hframe]
    rfl
  · rw [hframe]
    rfl
  · rw [hframe]
    exact List.take_left' huuid
  · rw [htail]
    rfl
  · rw [show 24 = 22 + 2 from rfl, ← List.drop_drop, htail]
    rfl
  · rw [hbody]
    exact ofBe_be32 h
  · rw [show headerSize = 26 + 4 from rfl, ← List.drop_drop, hbody]
    exact List.take_left' rfl

/-! ### What follows a frame -/

theorem isFrame_append {data : Bytes} (h : isFrame data) (suffix : Bytes) :
    isFrame (data ++ suffix) := by
  have hlength := length_of_isFrame h
  simp only [isFrame, Bool.and_eq_true, decide_eq_true_eq, List.isPrefixOf_iff_prefix] at h ⊢
  obtain ⟨⟨-, hmagic⟩, hversion⟩ := h
  refine ⟨⟨?_, hmagic.trans (List.prefix_append data suffix)⟩, ?_⟩
  · rw [List.length_append]
    exact Nat.le_add_right_of_le hlength
  · rw [List.getD_eq_getElem?_getD, List.getElem?_append_left (by omega),
      ← List.getD_eq_getElem?_getD]
    exact hversion

/-- The length in the header ends the payload. -/
theorem framePayload_append {payload : Bytes} (h : payload.length < 2 ^ 32) (contentType : UInt8)
    (messageId : String) (suffix : Bytes) :
    framePayload (frameWhole P payload contentType messageId ++ suffix) = payload := by
  have hheader := header_frameWhole (P := P) h contentType messageId suffix
  have hlength : payload.length ≤
      ((frameWhole P payload contentType messageId ++ suffix).drop headerSize).length := by
    conv_lhs => rw [← hheader.payload]
    exact List.length_take_le' ..
  unfold framePayload
  dsimp only
  rw [hheader.length, Nat.min_eq_left hlength]
  exact hheader.payload

/-- Framed chat text is read back, whatever comes after it. -/
theorem decodeText_encodeText_append {text : String}
    (h : (P.encodeMessageContent text).length < 2 ^ 32) (messageId : String) (suffix : Bytes) :
    decodeText P (encodeText P text messageId ++ suffix) = text := by
  have hframe := isFrame_append
    (isFrame_frameWhole P (P.encodeMessageContent text) ContentType.e2eeSignal messageId) suffix
  have htype : (frameWhole P (P.encodeMessageContent text) ContentType.e2eeSignal messageId ++
      suffix).getD 5 0 = ContentType.e2eeSignal := by
    rw [List.getD_eq_getElem?_getD,
      (header_frameWhole (P := P) h ContentType.e2eeSignal messageId suffix).contentType]
    rfl
  unfold encodeText decodeText
  rw [hframe, htype, isSilentType_e2eeSignal, framePayload_append h, P.decode_encode]
  rfl

/-! ### Slices -/

namespace Sliced

open Checked

variable (P)

/-- The version is looked at only when the header is there. -/
def isFrame (data : Bytes) : Checked Bool :=
  if headerSize ≤ data.length && magic.isPrefixOf data then
    (index data 4).map fun v => decide (v = version)
  else .ok false

def decodeText (plaintext : Bytes) : Checked String := do
  if !(← isFrame plaintext) then
    return Utf8.decodeLossy plaintext
  if isSilentType P (← index plaintext 5) then
    return ""
  let payloadLen := ofBe (← slice plaintext 26 30)
  let raw ← sliceFrom plaintext headerSize
  let payload := raw.take (min payloadLen raw.length)
  return (P.decodeMessageContent payload).getD (Utf8.decodeLossy payload)

theorem isFrame_eq (data : Bytes) : isFrame data = .ok (Knst.isFrame data) := by
  unfold isFrame Knst.isFrame
  by_cases hlength : headerSize ≤ data.length
  · have hindex : index data 4 = .ok (data.getD 4 0) :=
      index_of_lt (lt_of_lt_of_le (by decide) hlength) 0
    rw [hindex]
    cases magic.isPrefixOf data with
    | false => simp [hlength]
    | true => simp [hlength, Except.map]
  · simp [hlength]

/-- Decoding never panics. -/
theorem decodeText_eq (plaintext : Bytes) :
    decodeText P plaintext = .ok (Knst.decodeText P plaintext) := by
  unfold decodeText Knst.decodeText
  rw [isFrame_eq]
  cases hframe : Knst.isFrame plaintext with
  | false => rfl
  | true =>
    have hlength := length_of_isFrame hframe
    have htype : index plaintext 5 = .ok (plaintext.getD 5 0) := index_of_lt (by omega) 0
    have hslice : slice plaintext 26 30 = .ok ((plaintext.drop 26).take 4) :=
      slice_of_le (i := 26) (n := 4) (by omega)
    have hraw : sliceFrom plaintext headerSize = .ok (plaintext.drop headerSize) :=
      sliceFrom_of_le hlength
    rw [htype, hslice, hraw]
    show (if isSilentType P (plaintext.getD 5 0) then _ else _ : Checked String) = _
    split
    · rfl
    · show Except.ok ((P.decodeMessageContent (framePayload plaintext)).getD _) = _
      cases P.decodeMessageContent (framePayload plaintext) <;> rfl

end Sliced

end Knst

namespace OrchestratorTask

open Knst

/-- What goes out as it is: a frame, and what starts with NUL. -/
def LeftAlone (plaintext : Bytes) : Prop := isFrame plaintext ∨ plaintext.head? = some 0

theorem outgoingPlaintext_of_leftAlone (C : TaskConfig) (messageId : String) {plaintext : Bytes}
    (h : LeftAlone plaintext) : outgoingPlaintext C messageId plaintext = plaintext :=
  if_pos (by simpa [LeftAlone] using h)

/-- Bare text is wrapped. -/
theorem outgoingPlaintext_of_bare (C : TaskConfig) (messageId : String) {plaintext : Bytes}
    (h : ¬LeftAlone plaintext) : outgoingPlaintext C messageId plaintext =
      encodeText C.proto (Utf8.decodeLossy plaintext) messageId :=
  if_neg (by simpa [LeftAlone] using h)

/-- What is wrapped is not wrapped again. -/
theorem leftAlone_outgoingPlaintext (C : TaskConfig) (messageId : String) (plaintext : Bytes) :
    LeftAlone (outgoingPlaintext C messageId plaintext) := by
  by_cases h : LeftAlone plaintext
  · rwa [outgoingPlaintext_of_leftAlone C messageId h]
  · rw [outgoingPlaintext_of_bare C messageId h]
    exact .inl (isFrame_frameWhole ..)

/-- **Frames are made once and read back.** The frame of a text is a frame with the header of its
encoding, and gives the text, whatever comes after it; a session ping is a frame of its own type and
gives the empty text; bare text is wrapped, frames and what starts with NUL are left alone, so what
is wrapped is not wrapped again; and decoding never panics. -/
theorem framing (C : TaskConfig) :
    (∀ text messageId, (C.proto.encodeMessageContent text).length < 2 ^ 32 → ∀ suffix,
      isFrame (encodeText C.proto text messageId) ∧
      Header (encodeText C.proto text messageId) ContentType.e2eeSignal
        (uuidBytes C.proto messageId) (C.proto.encodeMessageContent text) ∧
      decodeText C.proto (encodeText C.proto text messageId) = text ∧
      decodeText C.proto (encodeText C.proto text messageId ++ suffix) = text) ∧
    (∀ messageId, isFrame (encodeSessionPing C.proto messageId) ∧
      ((C.proto.encodeSessionControl messageId).length < 2 ^ 32 →
        Header (encodeSessionPing C.proto messageId) ContentType.sessionPing
          (uuidBytes C.proto messageId) (C.proto.encodeSessionControl messageId)) ∧
      decodeText C.proto (encodeSessionPing C.proto messageId) = "") ∧
    ((∀ messageId text, ¬LeftAlone (Utf8.encode text) →
        outgoingPlaintext C messageId (Utf8.encode text) = encodeText C.proto text messageId) ∧
      (∀ messageId plaintext, LeftAlone plaintext →
        outgoingPlaintext C messageId plaintext = plaintext) ∧
      ∀ messageId messageId' plaintext,
        outgoingPlaintext C messageId' (outgoingPlaintext C messageId plaintext) =
          outgoingPlaintext C messageId plaintext) ∧
    ∀ plaintext, Sliced.decodeText C.proto plaintext = .ok (decodeText C.proto plaintext) := by
  have hheader {payload : Bytes} (h : payload.length < 2 ^ 32) (contentType : UInt8)
      (messageId : String) : Header (frameWhole C.proto payload contentType messageId) contentType
        (uuidBytes C.proto messageId) payload := by
    have hframe := header_frameWhole (P := C.proto) h contentType messageId []
    rwa [List.append_nil] at hframe
  refine ⟨fun text messageId h suffix => ?_, fun messageId => ?_, ⟨?_, ?_, ?_⟩,
    Sliced.decodeText_eq C.proto⟩
  · exact ⟨isFrame_frameWhole .., hheader h _ messageId, decodeText_encodeText C.proto h,
      decodeText_encodeText_append h messageId suffix⟩
  · exact ⟨isFrame_frameWhole .., fun h => hheader h _ messageId,
      decodeText_encodeSessionPing C.proto messageId⟩
  · intro messageId text h
    rw [outgoingPlaintext_of_bare C messageId h, Utf8.decodeLossy_encode]
  · exact fun messageId _ h => outgoingPlaintext_of_leftAlone C messageId h
  · exact fun messageId messageId' plaintext =>
      outgoingPlaintext_of_leftAlone C messageId'
        (leftAlone_outgoingPlaintext C messageId plaintext)

/-- A text with a byte after its frame. -/
theorem framing_hi : isFrame (encodeText .tagged "hi" "m1") ∧
    Header (encodeText .tagged "hi" "m1") ContentType.e2eeSignal (List.replicate 16 0)
      (0x0A :: Utf8.encode "hi") ∧
    decodeText .tagged (encodeText .tagged "hi" "m1") = "hi" ∧
    decodeText .tagged (encodeText .tagged "hi" "m1" ++ [0]) = "hi" :=
  (framing ⟨.tagged, "me", "phone"⟩).1 "hi" "m1" (by decide) [0]

end OrchestratorTask

import ConstructTui.Lib.BigEndian
import ConstructTui.Lib.Chunks
import ConstructTui.Storage

/-!
# gRPC frames

A frame is a compression flag, the length of a message in four bytes, and the message. Three places
read the length: the encoder writes it, the decoder of one frame reads it, and the pump of a stream
reads it to find where a frame ends.

## Main definitions

* `Grpc.encodeFrame`, `Grpc.decodeFrame`.
* `Grpc.splitFrame`, `Grpc.frames`: how the pump cuts a frame off its buffer.

## Main results

* `Grpc.decodeFrame_eq_ok`: what is decoded is a frame and what follows it.
* `Grpc.decodeFrame_encodeFrame`, `Grpc.splitFrame_encodeFrame`.
-/

open BigEndian

namespace Grpc

/-- Errors of the client; the framing has the first kind only. -/
inductive GrpcError
  | transport (msg : String)
  | tls (msg : String)
  | status (code : ℕ) (message : String)
  | unauthenticated (msg : String)
  | permissionDenied (msg : String)
  deriving DecidableEq, Repr

def encodeFrame (protoBytes : Bytes) : Bytes := 0 :: be32 protoBytes.length ++ protoBytes

/-- Decode one frame; answers the message and what follows it. -/
def decodeFrame (data : Bytes) : Except GrpcError (Bytes × Bytes) :=
  if data.length < 5 then
    .error (.transport ("gRPC frame too short: " ++ toString data.length ++ " bytes"))
  else
    let compressed := data.getD 0 0
    let msgLen := ofBe ((data.drop 1).take 4)
    let data := data.drop 5
    if compressed ≠ 0 then .error (.transport "compressed gRPC frames not supported")
    else if data.length < msgLen then
      .error (.transport ("gRPC frame incomplete: need " ++ toString msgLen ++ " bytes, have " ++
        toString data.length))
    else .ok (data.take msgLen, data.drop msgLen)

/-- One round of the pump's inner loop: the first frame of the buffer, if all of it is there. The
compression flag is not looked at. -/
def splitFrame (recvBuf : Bytes) : Option (Bytes × Bytes) :=
  if recvBuf.length < 5 then none
  else
    let msgLen := ofBe [recvBuf.getD 1 0, recvBuf.getD 2 0, recvBuf.getD 3 0, recvBuf.getD 4 0]
    if recvBuf.length < 5 + msgLen then none
    else some (recvBuf.take (5 + msgLen), recvBuf.drop (5 + msgLen))

/-- A frame is five bytes of header and a body of the length they tell. -/
theorem splitFrame_eq_some {recvBuf frame rest : Bytes} :
    splitFrame recvBuf = some (frame, rest) ↔
      ∃ flag b₁ b₂ b₃ b₄ body, frame = flag :: b₁ :: b₂ :: b₃ :: b₄ :: body ∧
        body.length = ofBe [b₁, b₂, b₃, b₄] ∧ recvBuf = frame ++ rest := by
  unfold splitFrame
  match recvBuf with
  | [] | [_] | [_, _] | [_, _, _] | [_, _, _, _] =>
    refine iff_of_false (by simp) ?_
    rintro ⟨_, _, _, _, _, _, rfl, _, hbuf⟩
    simp at hbuf
  | flag :: b₁ :: b₂ :: b₃ :: b₄ :: tail =>
    have hfive : ¬(flag :: b₁ :: b₂ :: b₃ :: b₄ :: tail).length < 5 := by simp
    rw [if_neg hfive]
    simp only [List.getD_cons_succ, List.getD_cons_zero]
    split
    · next hshort =>
      refine iff_of_false (by simp) ?_
      rintro ⟨_, _, _, _, _, body, rfl, hlen, hbuf⟩
      simp only [List.cons_append, List.cons.injEq] at hbuf
      obtain ⟨-, rfl, rfl, rfl, rfl, rfl⟩ := hbuf
      simp only [List.length_cons, List.length_append] at hshort
      omega
    · next hlong =>
      rw [Nat.add_comm 5]
      constructor
      · intro h
        obtain ⟨rfl, rfl⟩ : _ ∧ _ := by simpa using h
        simp only [List.length_cons] at hlong
        refine ⟨flag, b₁, b₂, b₃, b₄, _, rfl, ?_, ?_⟩
        · rw [List.length_take]
          omega
        · simp
      · rintro ⟨_, _, _, _, _, body, rfl, hlen, hbuf⟩
        simp only [List.cons_append, List.cons.injEq] at hbuf
        obtain ⟨rfl, rfl, rfl, rfl, rfl, rfl⟩ := hbuf
        simp [← hlen]

/-- More data never changes the first frame. -/
def frames : Cutter UInt8 where
  cut := splitFrame
  join h := by
    obtain ⟨_, _, _, _, _, _, _, _, rfl⟩ := splitFrame_eq_some.mp h
    rfl
  ne_nil h := by
    obtain ⟨_, _, _, _, _, _, rfl, _⟩ := splitFrame_eq_some.mp h
    exact List.cons_ne_nil _ _
  append h more := by
    obtain ⟨flag, b₁, b₂, b₃, b₄, body, hframe, hlen, rfl⟩ := splitFrame_eq_some.mp h
    exact splitFrame_eq_some.mpr
      ⟨flag, b₁, b₂, b₃, b₄, body, hframe, hlen, List.append_assoc ..⟩

@[simp] theorem splitFrame_nil : splitFrame [] = none := rfl

/-- A frame is cut off whole. -/
theorem splitFrame_encodeFrame {m : Bytes} (h : m.length < 2 ^ 32) :
    splitFrame (encodeFrame m) = some (encodeFrame m, []) :=
  splitFrame_eq_some.mpr ⟨_, _, _, _, _, m, rfl, (ofBe_be32 h).symm, (List.append_nil _).symm⟩

/-- A frame is decoded to the message it was made from. -/
theorem decodeFrame_encodeFrame {m : Bytes} (h : m.length < 2 ^ 32) (rest : Bytes) :
    decodeFrame (encodeFrame m ++ rest) = .ok (m, rest) := by
  have hlen : ofBe (((encodeFrame m ++ rest).drop 1).take 4) = m.length := ofBe_be32 h
  have hdrop : (encodeFrame m ++ rest).drop 5 = m ++ rest := rfl
  have hfive : ¬(encodeFrame m ++ rest).length < 5 := by simp [encodeFrame]
  have hbody : ¬(m ++ rest).length < m.length := by simp
  unfold decodeFrame
  dsimp only
  rw [if_neg hfive, if_neg (by simp [encodeFrame]), hlen, hdrop, if_neg hbody, List.take_left,
    List.drop_left]

/-- What is decoded is a message whose frame comes first. -/
theorem decodeFrame_eq_ok {data m rest : Bytes} :
    decodeFrame data = .ok (m, rest) ↔ m.length < 2 ^ 32 ∧ data = encodeFrame m ++ rest := by
  refine ⟨fun h => ?_, fun ⟨hlength, hdata⟩ => hdata ▸ decodeFrame_encodeFrame hlength rest⟩
  unfold decodeFrame at h
  match data with
  | [] | [_] | [_, _] | [_, _, _] | [_, _, _, _] => cases h
  | flag :: b₁ :: b₂ :: b₃ :: b₄ :: body =>
    rw [if_neg (by simp)] at h
    change (if flag ≠ 0 then _ else if body.length < ofBe [b₁, b₂, b₃, b₄] then _ else
      Except.ok (body.take (ofBe [b₁, b₂, b₃, b₄]), body.drop (ofBe [b₁, b₂, b₃, b₄]))) = _ at h
    by_cases hflag : flag ≠ 0
    · rw [if_pos hflag] at h
      cases h
    · rw [if_neg hflag] at h
      by_cases hshort : body.length < ofBe [b₁, b₂, b₃, b₄]
      · rw [if_pos hshort] at h
        cases h
      · rw [if_neg hshort] at h
        obtain ⟨rfl, rfl⟩ := Prod.mk.inj (Except.ok.inj h)
        have htake : (body.take (ofBe [b₁, b₂, b₃, b₄])).length = ofBe [b₁, b₂, b₃, b₄] := by
          rw [List.length_take]
          omega
        rw [encodeFrame, htake, be32_ofBe, not_not.mp hflag]
        exact ⟨ofBe_lt b₁ b₂ b₃ b₄, by simp⟩

end Grpc

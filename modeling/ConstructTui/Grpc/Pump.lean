import ConstructTui.Grpc.Framing
import ConstructTui.Lib.Run

/-!
# The pump of a message stream

The pump of a stream selects between frames to send and chunks received. A chunk goes to the end of
the buffer, and every frame that is complete there is handed on. The pump returns when a send fails,
when either side closes or when receiving fails.

## Main definitions

* `Grpc.Pump`, `Grpc.PumpInput`, `Grpc.Pump.step`.
* `Grpc.received`: the bytes that came in over a run.

## Main results

* `Grpc.Pump.after_eq_drain`: what was handed on and kept is read off the bytes alone.
* `Grpc.Pump.reassembles`: frames come out whole and in order, however they were cut.
-/

namespace Grpc

/-- What the select of the pump answers. -/
inductive PumpInput
  | outgoing (frame : Option Bytes) (sent : Bool)
  | chunk (data : Bytes)
  | recvError
  | closed
  | timeout
  deriving DecidableEq, Repr

/-- The pump's state: the buffer, the calls of `on_frame` and the frames sent. -/
structure Pump where
  recvBuf : Bytes
  onFrame : List Bytes
  sent : List Bytes
  deriving DecidableEq, Repr

def Pump.start : Pump := ⟨[], [], []⟩

/-- One round of the loop; nothing is left once the pump has returned. -/
def Pump.step (p : Pump) : PumpInput → Option Pump
  | .outgoing (some frame) true => some { p with sent := p.sent ++ [frame] }
  | .outgoing (some _) false => none
  | .outgoing none _ => none
  | .chunk data =>
    let (onFrame, recvBuf) := frames.feed (p.onFrame, p.recvBuf) data
    some { p with onFrame := onFrame, recvBuf := recvBuf }
  | .recvError => none
  | .closed => none
  | .timeout => some p

/-- The bytes received over a run. -/
def received : List PumpInput → Bytes
  | [] => []
  | .chunk data :: inputs => data ++ received inputs
  | _ :: inputs => received inputs

theorem received_map_chunk (chunks : List Bytes) :
    received (chunks.map .chunk) = chunks.flatten := by
  induction chunks with
  | nil => rfl
  | cons data chunks ih => exact congrArg (data ++ ·) ih

namespace Pump

/-- What the pump has handed on and kept is what draining the bytes received so far gives. -/
theorem drain_step {p p' : Pump} {bytes : Bytes} {input : PumpInput}
    (h : (p.onFrame, p.recvBuf) = frames.drain bytes) (hs : p.step input = some p') :
    (p'.onFrame, p'.recvBuf) = frames.drain (bytes ++ received [input]) := by
  cases input with
  | chunk data =>
    obtain rfl := Option.some.inj hs
    show frames.feed (p.onFrame, p.recvBuf) data = _
    rw [h, received, received, List.append_nil, Cutter.feed_drain]
  | outgoing frame sent =>
    cases frame with
    | none => cases hs
    | some frame =>
      cases sent with
      | false => cases hs
      | true =>
        obtain rfl := Option.some.inj hs
        simpa [received] using h
  | timeout =>
    obtain rfl := Option.some.inj hs
    simpa [received] using h
  | recvError => cases hs
  | closed => cases hs

theorem drain_after {p p' : Pump} {bytes : Bytes} {inputs : List PumpInput}
    (h : (p.onFrame, p.recvBuf) = frames.drain bytes)
    (hrun : Run.after step p inputs = some p') :
    (p'.onFrame, p'.recvBuf) = frames.drain (bytes ++ received inputs) := by
  induction inputs generalizing p bytes with
  | nil =>
    obtain rfl := Option.some.inj hrun
    simpa [received] using h
  | cons input inputs ih =>
    obtain ⟨q, hq, hrun⟩ := Run.after_cons hrun
    have hbytes : received (input :: inputs) = received [input] ++ received inputs := by
      cases input <;> simp [received]
    rw [hbytes, ← List.append_assoc]
    exact ih (drain_step h hq) hrun

theorem after_eq_drain {p : Pump} {inputs : List PumpInput}
    (hrun : Run.after step start inputs = some p) :
    (p.onFrame, p.recvBuf) = frames.drain (received inputs) :=
  drain_after (Cutter.drain_of_none splitFrame_nil).symm hrun

/-- A pump that only receives goes on for as long as chunks come. -/
theorem exists_after_chunks (p : Pump) (chunks : List Bytes) :
    ∃ p', Run.after step p (chunks.map .chunk) = some p' := by
  induction chunks generalizing p with
  | nil => exact ⟨p, rfl⟩
  | cons data chunks ih => exact ih _

/-- The frames and the buffer depend on the bytes received only: together they are those bytes, any
other way to receive them gives the same, and the bytes of whole frames give these frames, each of
which decodes to its message. -/
theorem reassembles {inputs : List PumpInput} {p : Pump}
    (hrun : Run.after step start inputs = some p) :
    p.onFrame.flatten ++ p.recvBuf = received inputs ∧
      (∀ inputs' p', Run.after step start inputs' = some p' →
        received inputs' = received inputs → p'.onFrame = p.onFrame ∧ p'.recvBuf = p.recvBuf) ∧
      (∀ chunks : List Bytes, chunks.flatten = received inputs →
        ∃ p', Run.after step start (chunks.map .chunk) = some p' ∧ p'.onFrame = p.onFrame) ∧
      ∀ messages : List Bytes, (∀ m ∈ messages, m.length < 2 ^ 32) →
        received inputs = (messages.map encodeFrame).flatten →
        p.onFrame = messages.map encodeFrame ∧ p.recvBuf = [] ∧
          p.onFrame.map decodeFrame = messages.map fun m => .ok (m, []) := by
  have hp := after_eq_drain hrun
  have hsame (inputs' : List PumpInput) (p' : Pump) (hrun' : Run.after step start inputs' = some p')
      (heq : received inputs' = received inputs) :
      p'.onFrame = p.onFrame ∧ p'.recvBuf = p.recvBuf := by
    have hp' := after_eq_drain hrun'
    rw [heq, ← hp] at hp'
    exact Prod.mk.inj hp'
  refine ⟨?_, hsame, fun chunks hchunks => ?_, fun messages hlen hreceived => ?_⟩
  · have hflat := frames.flatten_drain (received inputs)
    rwa [← hp] at hflat
  · obtain ⟨p', hp'⟩ := exists_after_chunks start chunks
    exact ⟨p', hp', (hsame _ p' hp' ((received_map_chunk chunks).trans hchunks)).1⟩
  · have hframes : ∀ frame ∈ messages.map encodeFrame, frames.cut frame = some (frame, []) := by
      intro frame hframe
      obtain ⟨m, hm, rfl⟩ := List.mem_map.mp hframe
      exact splitFrame_encodeFrame (hlen m hm)
    rw [hreceived, Cutter.drain_flatten splitFrame_nil hframes] at hp
    obtain ⟨honFrame, hrecvBuf⟩ := Prod.mk.inj hp
    refine ⟨honFrame, hrecvBuf, ?_⟩
    rw [honFrame, List.map_map]
    refine List.map_congr_left fun m hm => ?_
    simpa using decodeFrame_encodeFrame (hlen m hm) []

/-- Two frames in three chunks, with an idle poll in between. -/
theorem reassembles_two : ∃ p,
    Run.after step start [.chunk [0, 0, 0], .timeout, .chunk [0, 1, 7, 0], .chunk [0, 0, 0, 0]] =
      some p ∧ p.onFrame = [encodeFrame [7], encodeFrame []] := by
  obtain ⟨p, hp⟩ : ∃ p, Run.after step start [.chunk [0, 0, 0], .timeout, .chunk [0, 1, 7, 0],
      .chunk [0, 0, 0, 0]] = some p := ⟨_, rfl⟩
  have h := (reassembles hp).2.2.2 [[7], []] (by decide) rfl
  exact ⟨p, hp, h.1⟩

end Pump

end Grpc

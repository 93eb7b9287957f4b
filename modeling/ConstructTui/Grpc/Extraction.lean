import ConstructTui.Grpc.Framing

/-!
# The extraction of frames on narrow targets

The pump adds five to the length that a header declares, in the width of the target. The length has
32 bits, so on a target of 32 bits the sum wraps when a header declares the largest five lengths.
The round then takes fewer than five bytes off the buffer, or none, and the loop does not end.

## Main definitions

* `Grpc.Usize`: the widths.
* `Grpc.cutRound`, `Grpc.extract`: one round of the loop, and the loop.
* `Grpc.ExtractsWell`: the loop ends, and each round takes a whole frame.
* `Grpc.HeadersFit`: no header that comes up declares too much.

## Main results

* `Grpc.extract_eq_drain`: the loop cuts as the decoder of one frame reads.
* `Grpc.extractsWell_iff`: the loop does well exactly when the headers fit.
* `Grpc.extract_stuck`: a loop that never ends.
-/

open BigEndian

namespace Grpc

/-- The widths of `usize`. -/
inductive Usize
  | bits32
  | bits64
  deriving DecidableEq, Repr

namespace Usize

def size : Usize → ℕ
  | bits32 => 2 ^ 32
  | bits64 => 2 ^ 64

/-- A sum in a release build. -/
def add (w : Usize) (a b : ℕ) : ℕ := (a + b) % w.size

theorem two_pow_le_size (w : Usize) : 2 ^ 32 ≤ w.size := by cases w <;> decide

theorem add_eq {w : Usize} {a b : ℕ} (h : a + b < w.size) : w.add a b = a + b :=
  Nat.mod_eq_of_lt h

/-- A sum that wraps is what is above the size. -/
theorem add_wraps {w : Usize} {a b : ℕ} (hb : b < 2 ^ 32) (h : w.size ≤ a + b) (ha : a < 2 ^ 32) :
    w.add a b = a + b - w.size := by
  have hsize := w.two_pow_le_size
  rw [add, Nat.mod_eq_sub_mod h, Nat.mod_eq_of_lt (by omega)]

end Usize

/-- The length in the header of the buffer. -/
def declaredLength (recvBuf : Bytes) : ℕ :=
  ofBe [recvBuf.getD 1 0, recvBuf.getD 2 0, recvBuf.getD 3 0, recvBuf.getD 4 0]

theorem declaredLength_lt (recvBuf : Bytes) : declaredLength recvBuf < 2 ^ 32 := ofBe_lt _ _ _ _

/-- One round of the pump's inner loop on a target: what goes to `on_frame`, and what stays. -/
def cutRound (w : Usize) (recvBuf : Bytes) : Option (Bytes × Bytes) :=
  if recvBuf.length < 5 then none
  else
    let msgLen := declaredLength recvBuf
    if recvBuf.length < w.add 5 msgLen then none
    else some (recvBuf.take (w.add 5 msgLen), recvBuf.drop (w.add 5 msgLen))

/-- The pump's inner loop: what goes to `on_frame`, and what stays in the buffer; no answer when it
has not ended after so many rounds. -/
def extract (w : Usize) : ℕ → Bytes → Option (List Bytes × Bytes) := Cutter.loop (cutRound w)

/-- The loop ends. Every round that calls `on_frame` takes five bytes or more off the buffer, and
the frame is as long as its header declares. -/
structure ExtractsWell (w : Usize) (recvBuf : Bytes) : Prop where
  ends : ∃ rounds r, extract w rounds recvBuf = some r
  removes : ∀ b frame rest, Cutter.Passes (cutRound w) recvBuf b →
    cutRound w b = some (frame, rest) → rest.length + 5 ≤ b.length
  length_frame : ∀ b frame rest, Cutter.Passes (cutRound w) recvBuf b →
    cutRound w b = some (frame, rest) → frame.length = 5 + declaredLength b

/-- Wherever whole frames end in the buffer and five bytes follow, these declare a length whose
frame fits the width. -/
def HeadersFit (w : Usize) (recvBuf : Bytes) : Prop :=
  ∀ (whole : List Bytes) (rest : Bytes), (∀ f ∈ whole, splitFrame f = some (f, [])) →
    recvBuf = whole.flatten ++ rest → 5 ≤ rest.length → 5 + declaredLength rest < w.size

/-! ### One round -/

variable {w : Usize} {recvBuf frame rest : Bytes}

/-- Where the length fits, the round cuts the frame off. -/
theorem cutRound_eq_splitFrame (h : 5 ≤ recvBuf.length → 5 + declaredLength recvBuf < w.size) :
    cutRound w recvBuf = splitFrame recvBuf := by
  unfold cutRound splitFrame
  by_cases hfive : recvBuf.length < 5
  · rw [if_pos hfive, if_pos hfive]
  · rw [if_neg hfive, if_neg hfive]
    dsimp only
    rw [Usize.add_eq (h (not_lt.mp hfive))]
    rfl

/-- Where the length does not fit, the round takes what is above the size. -/
theorem cutRound_of_wraps (hfive : 5 ≤ recvBuf.length) (h : w.size ≤ 5 + declaredLength recvBuf) :
    cutRound w recvBuf = some (recvBuf.take (5 + declaredLength recvBuf - w.size),
      recvBuf.drop (5 + declaredLength recvBuf - w.size)) := by
  have hlt := declaredLength_lt recvBuf
  have hsize := w.two_pow_le_size
  unfold cutRound
  dsimp only
  rw [if_neg (not_lt.mpr hfive), Usize.add_wraps hlt h (by decide), if_neg (by omega)]

/-- A frame that is cut off has its header in front. -/
theorem length_of_splitFrame (h : splitFrame recvBuf = some (frame, rest)) :
    frame.length = 5 + declaredLength recvBuf ∧ rest.length + 5 ≤ recvBuf.length := by
  obtain ⟨flag, b₁, b₂, b₃, b₄, body, rfl, hbody, rfl⟩ := splitFrame_eq_some.mp h
  have hdeclared : declaredLength (flag :: b₁ :: b₂ :: b₃ :: b₄ :: body ++ rest) = body.length :=
    hbody.symm
  rw [hdeclared]
  simp only [List.length_cons, List.length_append]
  omega

/-- A frame that is cut off is whole. -/
theorem splitFrame_whole (h : splitFrame recvBuf = some (frame, rest)) :
    splitFrame frame = some (frame, []) := by
  obtain ⟨flag, b₁, b₂, b₃, b₄, body, rfl, hbody, -⟩ := splitFrame_eq_some.mp h
  exact splitFrame_eq_some.mpr ⟨flag, b₁, b₂, b₃, b₄, body, rfl, hbody, (List.append_nil _).symm⟩

/-! ### Headers that fit -/

theorem headersFit_bits64 (recvBuf : Bytes) : HeadersFit .bits64 recvBuf := by
  intro _ rest _ _ _
  have hlt := declaredLength_lt rest
  have hsize : Usize.bits64.size = 2 ^ 64 := rfl
  omega

namespace HeadersFit

theorem here (h : HeadersFit w recvBuf) (hfive : 5 ≤ recvBuf.length) :
    5 + declaredLength recvBuf < w.size := h [] recvBuf (List.forall_mem_nil _) rfl hfive

theorem cutRound_eq (h : HeadersFit w recvBuf) : cutRound w recvBuf = splitFrame recvBuf :=
  cutRound_eq_splitFrame h.here

theorem after_cut (h : HeadersFit w recvBuf) (hcut : splitFrame recvBuf = some (frame, rest)) :
    HeadersFit w rest := by
  intro whole tail hwhole hrest hfive
  refine h (frame :: whole) tail (List.forall_mem_cons.mpr ⟨splitFrame_whole hcut, hwhole⟩) ?_ hfive
  rw [List.flatten_cons, List.append_assoc, ← hrest]
  exact (frames.join hcut).symm

theorem passes (h : HeadersFit w recvBuf) {b : Bytes}
    (hb : Cutter.Passes (cutRound w) recvBuf b) : HeadersFit w b := by
  induction hb with
  | start => exact h
  | next _ hcut ih => exact ih.after_cut (ih.cutRound_eq.symm.trans hcut)

end HeadersFit

/-- Where the headers fit, the loop drains the buffer. -/
theorem extract_eq_drain (h : HeadersFit w recvBuf) :
    ∃ rounds, extract w rounds recvBuf = some (frames.drain recvBuf) :=
  frames.loop_eq_drain fun _ hb => (h.passes hb).cutRound_eq

/-! ### When the loop does well -/

theorem HeadersFit.extractsWell (h : HeadersFit w recvBuf) : ExtractsWell w recvBuf where
  ends := by
    obtain ⟨rounds, hrounds⟩ := extract_eq_drain h
    exact ⟨rounds, _, hrounds⟩
  removes b frame rest hb hcut :=
    (length_of_splitFrame ((h.passes hb).cutRound_eq.symm.trans hcut)).2
  length_frame b frame rest hb hcut :=
    (length_of_splitFrame ((h.passes hb).cutRound_eq.symm.trans hcut)).1

namespace ExtractsWell

/-- The first round takes five bytes, so the first header fits. -/
theorem here (h : ExtractsWell w recvBuf) (hfive : 5 ≤ recvBuf.length) :
    5 + declaredLength recvBuf < w.size := by
  by_contra hwraps
  have hlt := declaredLength_lt recvBuf
  have hsize := w.two_pow_le_size
  have hremoves := h.removes _ _ _ .start (cutRound_of_wraps hfive (not_lt.mp hwraps))
  rw [List.length_drop] at hremoves
  omega

theorem after_cut (h : ExtractsWell w recvBuf) (hcut : cutRound w recvBuf = some (frame, rest)) :
    ExtractsWell w rest where
  ends := by
    obtain ⟨rounds, r, hr⟩ := h.ends
    cases rounds with
    | zero => cases hr
    | succ rounds =>
      rw [extract, Cutter.loop_succ_of_some hcut] at hr
      obtain ⟨r', hr', -⟩ := Option.map_eq_some_iff.mp hr
      exact ⟨rounds, r', hr'⟩
  removes b frame' rest' hb := h.removes b frame' rest' (hb.head hcut)
  length_frame b frame' rest' hb := h.length_frame b frame' rest' (hb.head hcut)

/-- Frame after frame, the headers fit. -/
theorem headersFit (h : ExtractsWell w recvBuf) : HeadersFit w recvBuf := by
  intro whole tail hwhole hbuf hfive
  induction whole generalizing recvBuf with
  | nil =>
    obtain rfl : recvBuf = tail := hbuf
    exact h.here hfive
  | cons f whole ih =>
    obtain ⟨hf, hwhole⟩ := List.forall_mem_cons.mp hwhole
    have hsplit : splitFrame recvBuf = some (f, whole.flatten ++ tail) := by
      rw [hbuf, List.flatten_cons, List.append_assoc]
      exact frames.append hf _
    have hcut := (cutRound_eq_splitFrame h.here).trans hsplit
    exact ih (h.after_cut hcut) hwhole rfl

end ExtractsWell

/-- **The extraction loop does well exactly when the headers fit**: on 64 bits always, on 32 bits
when no header that it comes to declares one of the largest five lengths. -/
theorem extractsWell_iff (w : Usize) (recvBuf : Bytes) :
    (ExtractsWell w recvBuf ↔ HeadersFit w recvBuf) ∧ HeadersFit .bits64 recvBuf :=
  ⟨⟨ExtractsWell.headersFit, HeadersFit.extractsWell⟩, headersFit_bits64 recvBuf⟩

/-- A header whose frame is as long as the width has numbers keeps the loop for ever. -/
theorem extract_stuck (hfive : 5 ≤ recvBuf.length) (h : 5 + declaredLength recvBuf = w.size)
    (rounds : ℕ) : extract w rounds recvBuf = none := by
  have hcut := cutRound_of_wraps hfive h.ge
  rw [h, Nat.sub_self] at hcut
  exact Cutter.loop_of_stuck hcut rounds

/-- Five bytes from the server that keep a narrow target busy for ever. -/
theorem not_extractsWell_bits32 : ¬ExtractsWell .bits32 [0, 255, 255, 255, 251] ∧
    ∀ rounds, extract .bits32 rounds [0, 255, 255, 255, 251] = none := by
  have hstuck (rounds : ℕ) : extract .bits32 rounds [0, 255, 255, 255, 251] = none :=
    extract_stuck (by decide) (by decide) rounds
  refine ⟨fun h => ?_, hstuck⟩
  obtain ⟨rounds, r, hr⟩ := h.ends
  rw [hstuck rounds] at hr
  cases hr

end Grpc

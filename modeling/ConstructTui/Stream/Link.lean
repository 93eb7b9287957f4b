import ConstructTui.Grpc.Pump
import ConstructTui.Stream.Worker

/-!
# An open stream

Three parties share an open stream. The worker puts the frames of its requests into a channel, the
pump writes them to the connection and cuts the bytes it receives into frames, and the frames wait
in a second channel until the worker takes them. Each party takes its steps when it likes. When the
worker lets go of a stream, its pump may still go on for a while.

## Main definitions

* `StreamWorker.Request`, `StreamWorker.StreamCodec`.
* `StreamWorker.Link`: the two channels and the pump of one stream.
* `StreamWorker.Link.sendFrame`, `StreamWorker.Link.takeFrame`, `StreamWorker.Link.pumpStep`.
* `StreamWorker.Link.Sound`: what was asked for is written or waits, in order, and what was taken
  is what came first.

## Main results

* `StreamWorker.Link.Sound.sendFrame` and its companions: every step keeps a link sound.
* `StreamWorker.Link.Sound.readable`: whoever cuts what was written finds the requests.
* `StreamWorker.Link.Sound.responses_of_isPrefix`: the responses taken are the first ones the
  server sent.
-/

namespace StreamWorker

/-- What a request on the stream asks for. -/
inductive Request
  | subscribe (conversationIds : List String) (sinceCursor : Option String)
      (includePresence : Bool)
  | send (envelope : Envelope)
  | heartbeat (timestamp : ℤ)
  deriving DecidableEq, Repr

structure MessageStreamRequest where
  request : Request
  requestId : String
  deriving DecidableEq, Repr

/-- How requests are written and responses are read. -/
structure StreamCodec where
  encode : MessageStreamRequest → Bytes
  decode : Bytes → Option Response

def StreamCodec.frame (codec : StreamCodec) (request : MessageStreamRequest) : Bytes :=
  Grpc.encodeFrame (codec.encode request)

/-- The response in a frame; a frame of another form, or of another message, has none. -/
def StreamCodec.decodeIncoming (codec : StreamCodec) (frame : Bytes) : Option Response :=
  match Grpc.decodeFrame frame with
  | .ok (msg, _) => codec.decode msg
  | .error _ => none

def outgoingChannelDepth : ℕ := 256

/-- An open stream: the requests it has accepted, the frames that wait for the pump, the pump,
whether it has returned, what it has received, and how many of its frames the worker has taken. -/
structure Link where
  requests : List MessageStreamRequest
  outgoing : List Bytes
  pump : Grpc.Pump
  returned : Bool
  received : Bytes
  taken : ℕ
  deriving DecidableEq, Repr

variable (codec : StreamCodec)

/-- `open_message_stream`: the subscription is written before the pump starts. -/
def openMessageStream (conversationIds : List String) (sinceCursor : Option String)
    (requestId : String) : Link where
  requests := [⟨.subscribe conversationIds sinceCursor false, requestId⟩]
  outgoing := []
  pump := { Grpc.Pump.start with
    sent := [codec.frame ⟨.subscribe conversationIds sinceCursor false, requestId⟩] }
  returned := false
  received := []
  taken := 0

namespace Link

/-- `send_frame` ends: the frame has found room in the channel, or nobody reads the channel. -/
def sendFrame (l : Link) (request : MessageStreamRequest) : Bool → Option Link
  | true =>
    if !l.returned && l.outgoing.length < outgoingChannelDepth then
      some { l with
        requests := l.requests ++ [request], outgoing := l.outgoing ++ [codec.frame request] }
    else none
  | false => if l.returned then some l else none

/-- What `frame_rx.recv` finds: the next frame, or that no more will come. -/
def takeFrame (l : Link) : Option (Option Response) → Option Link
  | some response =>
    if (l.pump.onFrame[l.taken]?).map codec.decodeIncoming = some response then
      some { l with taken := l.taken + 1 }
    else none
  | none => if l.returned && l.taken = l.pump.onFrame.length then some l else none

/-- The outgoing channel after the select of the pump; the select answers what the channel holds,
and finds it closed only once the stream has been dropped. -/
def selected (l : Link) (dropped : Bool) : Grpc.PumpInput → Option (List Bytes)
  | .outgoing (some frame) _ =>
    match l.outgoing with
    | [] => none
    | f :: rest => if f = frame then some rest else none
  | .outgoing none _ => if dropped && l.outgoing.isEmpty then some [] else none
  | .chunk _ | .recvError | .closed | .timeout => some l.outgoing

/-- One round of the pump, which may be its last. -/
def pumpStep (l : Link) (dropped : Bool) (input : Grpc.PumpInput) : Option Link :=
  if l.returned then none
  else (l.selected dropped input).map fun outgoing =>
    match l.pump.step input with
    | some pump => { l with
        outgoing := outgoing, pump := pump, received := l.received ++ Grpc.received [input] }
    | none => { l with outgoing := outgoing, returned := true }

/-- The requests whose frames have been written. -/
def written (l : Link) : List MessageStreamRequest := l.requests.take l.pump.sent.length

/-- The responses the worker has taken. -/
def responses (l : Link) : List (Option Response) :=
  (l.pump.onFrame.take l.taken).map codec.decodeIncoming

/-- The frames of the requests are written or wait, in order, except for one whose send failed as
the pump returned; the frames handed on are those of the bytes received, and no more are taken.
The subscription has been written. -/
structure Sound (l : Link) : Prop where
  frames : ∃ lost, l.requests.map codec.frame = l.pump.sent ++ lost ++ l.outgoing ∧
    (l.returned = false → lost = [])
  drained : (l.pump.onFrame, l.pump.recvBuf) = Grpc.frames.drain l.received
  taken : l.taken ≤ l.pump.onFrame.length
  subscribed : l.pump.sent ≠ []

variable {codec} {l l' : Link}

theorem sound_open (conversationIds : List String) (sinceCursor : Option String)
    (requestId : String) :
    (openMessageStream codec conversationIds sinceCursor requestId).Sound codec where
  frames := ⟨[], rfl, fun _ => rfl⟩
  drained := (Cutter.drain_of_none Grpc.splitFrame_nil).symm
  taken := Nat.le_refl 0
  subscribed := List.cons_ne_nil _ _

/-! ### What the steps do -/

theorem sendFrame_true {request : MessageStreamRequest}
    (h : l.sendFrame codec request true = some l') : l.returned = false ∧ l' = { l with
      requests := l.requests ++ [request], outgoing := l.outgoing ++ [codec.frame request] } := by
  rw [sendFrame, Option.ite_none_right_eq_some] at h
  obtain ⟨hroom, h⟩ := h
  exact ⟨by simpa using (Bool.and_eq_true_iff.mp hroom).1, (Option.some.inj h).symm⟩

theorem sendFrame_false {request : MessageStreamRequest}
    (h : l.sendFrame codec request false = some l') : l.returned = true ∧ l' = l := by
  rw [sendFrame, Option.ite_none_right_eq_some] at h
  exact ⟨h.1, (Option.some.inj h.2).symm⟩

theorem takeFrame_some {response : Option Response}
    (h : l.takeFrame codec (some response) = some l') :
    (l.pump.onFrame[l.taken]?).map codec.decodeIncoming = some response ∧
      l' = { l with taken := l.taken + 1 } := by
  rw [takeFrame, Option.ite_none_right_eq_some] at h
  exact ⟨h.1, (Option.some.inj h.2).symm⟩

theorem takeFrame_none (h : l.takeFrame codec none = some l') :
    l.returned = true ∧ l.taken = l.pump.onFrame.length ∧ l' = l := by
  rw [takeFrame, Option.ite_none_right_eq_some] at h
  obtain ⟨hend, h⟩ := h
  simp only [Bool.and_eq_true, decide_eq_true_eq] at hend
  exact ⟨hend.1, hend.2, (Option.some.inj h).symm⟩

/-- A round of the pump writes the frame at the front of the channel, hands frames on, or is the
last one; the last one may take a frame that it does not write. -/
theorem pumpStep_cases {dropped : Bool} {input : Grpc.PumpInput}
    (h : l.pumpStep dropped input = some l') : l.returned = false ∧
      ((∃ frame rest, l.outgoing = frame :: rest ∧ l' = { l with
          outgoing := rest, pump := { l.pump with sent := l.pump.sent ++ [frame] } }) ∨
        (∃ pump, l.pump.step input = some pump ∧ pump.sent = l.pump.sent ∧
          l' = { l with pump := pump, received := l.received ++ Grpc.received [input] }) ∨
        ∃ lost rest, l.outgoing = lost ++ rest ∧
          l' = { l with outgoing := rest, returned := true }) := by
  rw [pumpStep, Option.ite_none_left_eq_some] at h
  obtain ⟨hreturned, h⟩ := h
  refine ⟨by simpa using hreturned, ?_⟩
  obtain ⟨outgoing, hselected, rfl⟩ := Option.map_eq_some_iff.mp h
  cases input with
  | outgoing frame sent =>
    cases frame with
    | none =>
      rw [selected, Option.ite_none_right_eq_some] at hselected
      obtain ⟨hclosed, hselected⟩ := hselected
      obtain rfl := Option.some.inj hselected
      have hempty : l.outgoing = [] := by simpa using (Bool.and_eq_true_iff.mp hclosed).2
      exact .inr (.inr ⟨[], [], hempty, rfl⟩)
    | some frame =>
      rw [selected] at hselected
      split at hselected
      · cases hselected
      · next f rest houtgoing =>
        rw [Option.ite_none_right_eq_some] at hselected
        obtain ⟨rfl, hselected⟩ := hselected
        obtain rfl := Option.some.inj hselected
        cases sent with
        | true =>
          refine .inl ⟨f, rest, houtgoing, ?_⟩
          simp [Grpc.Pump.step, Grpc.received]
        | false => exact .inr (.inr ⟨[f], rest, houtgoing, rfl⟩)
  | chunk data =>
    obtain rfl := Option.some.inj hselected
    exact .inr (.inl ⟨_, rfl, rfl, rfl⟩)
  | timeout =>
    obtain rfl := Option.some.inj hselected
    exact .inr (.inl ⟨_, rfl, rfl, rfl⟩)
  | recvError | closed =>
    obtain rfl := Option.some.inj hselected
    exact .inr (.inr ⟨[], l.outgoing, rfl, rfl⟩)

/-! ### Every step keeps a link sound -/

namespace Sound

theorem sendFrame (h : l.Sound codec) {request : MessageStreamRequest} {ok : Bool}
    (hs : l.sendFrame codec request ok = some l') : l'.Sound codec := by
  cases ok with
  | false => exact (sendFrame_false hs).2 ▸ h
  | true =>
    obtain ⟨hreturned, rfl⟩ := sendFrame_true hs
    obtain ⟨lost, hframes, hlost⟩ := h.frames
    refine ⟨⟨lost, ?_, hlost⟩, h.drained, h.taken, h.subscribed⟩
    simp [hframes]

theorem takeFrame (h : l.Sound codec) {response : Option (Option Response)}
    (hs : l.takeFrame codec response = some l') : l'.Sound codec := by
  cases response with
  | none => exact (takeFrame_none hs).2.2 ▸ h
  | some response =>
    obtain ⟨hresponse, rfl⟩ := takeFrame_some hs
    obtain ⟨frame, hframe, -⟩ := Option.map_eq_some_iff.mp hresponse
    obtain ⟨hlt, -⟩ := List.getElem?_eq_some_iff.mp hframe
    exact ⟨h.frames, h.drained, hlt, h.subscribed⟩

/-- The frames handed on only become more. -/
theorem onFrame_prefix (h : l.Sound codec) {dropped : Bool} {input : Grpc.PumpInput}
    (hs : l.pumpStep dropped input = some l') : l.pump.onFrame <+: l'.pump.onFrame := by
  obtain ⟨-, ⟨frame, rest, -, rfl⟩ | ⟨pump, hpump, -, rfl⟩ | ⟨lost, rest, -, rfl⟩⟩ :=
    pumpStep_cases hs
  · exact List.prefix_rfl
  · have hdrained := Grpc.Pump.drain_step h.drained hpump
    rw [Cutter.drain_append, ← h.drained] at hdrained
    exact ⟨_, (congrArg Prod.fst hdrained).symm⟩
  · exact List.prefix_rfl

theorem pumpStep (h : l.Sound codec) {dropped : Bool} {input : Grpc.PumpInput}
    (hs : l.pumpStep dropped input = some l') : l'.Sound codec := by
  have honFrame := h.onFrame_prefix hs
  obtain ⟨hreturned, hcases⟩ := pumpStep_cases hs
  obtain ⟨lost, hframes, hlost⟩ := h.frames
  obtain rfl := hlost hreturned
  obtain ⟨frame, rest, houtgoing, rfl⟩ | ⟨pump, hpump, hsent, rfl⟩ | ⟨lost, rest, houtgoing, rfl⟩ :=
    hcases
  · refine ⟨⟨[], ?_, fun _ => rfl⟩, h.drained, h.taken, by simp⟩
    simp [hframes, houtgoing]
  · have hdrained := Grpc.Pump.drain_step h.drained hpump
    exact ⟨⟨[], by simpa [hsent] using hframes, fun _ => rfl⟩, hdrained,
      h.taken.trans honFrame.length_le, hsent ▸ h.subscribed⟩
  · refine ⟨⟨lost, ?_, fun hrunning => absurd hrunning (by simp)⟩, h.drained, h.taken,
      h.subscribed⟩
    simp [hframes, houtgoing]

/-! ### The two ends -/

/-- What is written are the frames of the first requests. -/
theorem sent_eq (h : l.Sound codec) : l.pump.sent = l.written.map codec.frame := by
  obtain ⟨lost, hframes, -⟩ := h.frames
  rw [written, List.map_take, hframes, List.append_assoc, List.take_left]

theorem written_ne_nil (h : l.Sound codec) : l.written ≠ [] := by
  intro hnil
  exact h.subscribed (by rw [h.sent_eq, hnil, List.map_nil])

/-- Whoever cuts the bytes written finds these frames, and the requests in them. -/
theorem readable (h : l.Sound codec)
    (hsize : ∀ request ∈ l.written, (codec.encode request).length < 2 ^ 32) :
    Grpc.frames.drain l.pump.sent.flatten = (l.written.map codec.frame, []) ∧
      l.pump.sent.map Grpc.decodeFrame =
        l.written.map fun request => .ok (codec.encode request, []) := by
  rw [h.sent_eq]
  refine ⟨Cutter.drain_flatten Grpc.splitFrame_nil fun frame hframe => ?_, ?_⟩
  · obtain ⟨request, hrequest, rfl⟩ := List.mem_map.mp hframe
    exact Grpc.splitFrame_encodeFrame (hsize request hrequest)
  · rw [List.map_map]
    refine List.map_congr_left fun request hrequest => ?_
    simpa [StreamCodec.frame] using Grpc.decodeFrame_encodeFrame (hsize request hrequest) []

/-- The bytes of frames that the server has begun to send hold an initial part of these frames. -/
theorem onFrame_of_isPrefix (h : l.Sound codec) {messages : List Bytes}
    (hsize : ∀ m ∈ messages, m.length < 2 ^ 32)
    (hreceived : l.received <+: (messages.map Grpc.encodeFrame).flatten) :
    l.pump.onFrame <+: messages.map Grpc.encodeFrame := by
  obtain ⟨more, hmore⟩ := hreceived
  have hframes : ∀ frame ∈ messages.map Grpc.encodeFrame,
      Grpc.frames.cut frame = some (frame, []) := by
    intro frame hframe
    obtain ⟨m, hm, rfl⟩ := List.mem_map.mp hframe
    exact Grpc.splitFrame_encodeFrame (hsize m hm)
  have hall := Cutter.drain_flatten Grpc.splitFrame_nil hframes
  rw [← hmore, Cutter.drain_append, ← h.drained] at hall
  exact ⟨_, congrArg Prod.fst hall⟩

/-- The responses taken are the first ones the server sent. -/
theorem responses_of_isPrefix (h : l.Sound codec) {messages : List Bytes}
    (hsize : ∀ m ∈ messages, m.length < 2 ^ 32)
    (hreceived : l.received <+: (messages.map Grpc.encodeFrame).flatten) :
    l.responses codec = (messages.take l.taken).map codec.decode := by
  have honFrame := h.onFrame_of_isPrefix hsize hreceived
  have htake : l.pump.onFrame.take l.taken = (messages.take l.taken).map Grpc.encodeFrame := by
    obtain ⟨rest, hrest⟩ := honFrame
    rw [List.map_take, ← hrest, List.take_append_of_le_length h.taken]
  rw [responses, htake, List.map_map]
  refine List.map_congr_left fun m hm => ?_
  have hdecode := Grpc.decodeFrame_encodeFrame (hsize m (List.mem_of_mem_take hm)) []
  rw [List.append_nil] at hdecode
  simp [StreamCodec.decodeIncoming, hdecode]

end Sound

end Link

end StreamWorker

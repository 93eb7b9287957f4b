import ConstructTui.Stream.Exchange
import Mathlib.Data.List.Flatten

/-!
# The worker and its streams

The stream worker together with every stream it opens. The answers the worker gets about its stream
are what the channels of that stream answer: a send ends well when the channel has room, and a frame
arrives when the pump has cut one. A step is one of the worker, of the pump of its stream, or of the
pump of a stream it has let go, so a run is any interleaving of these.

The account of the worker then reaches to the connection: what is written, over all streams one
after another, comes from what the app sent, and what the worker tells the app is what the server
said, in the order in which it said it.

## Main definitions

* `StreamWorker.Streaming`, `StreamWorker.Streaming.step`.
* `StreamWorker.Streaming.Consistent`: the worker's history agrees with its streams.
* `StreamWorker.Streaming.Ordered`: the envelopes are where they keep their order.

## Main results

* `StreamWorker.Streaming.step_consistent`.
* `StreamWorker.Streaming.written_from_consumed`: what the server can read.
* `StreamWorker.Streaming.delivered_in_order`: what the app is told.
-/

namespace StreamWorker

variable (codec : StreamCodec)

namespace Link

/-- The envelopes the stream has accepted. -/
def envelopes (l : Link) : List Envelope := l.requests.filterMap fun r => r.request.envelope?

/-- The envelopes the server can read. -/
def writtenEnvelopes (l : Link) : List Envelope := l.written.filterMap fun r => r.request.envelope?

/-- What the worker tells the app of this stream. -/
def told (l : Link) : List StreamEvent := (l.responses codec).flatMap dispatchIncoming

/-- The part of an answer that the stream gives. -/
def answered (l : Link) (w : Worker) (requestId : String) (now : ℤ) (answer : Answer) :
    Option Link :=
  match w.asking now answer with
  | some (request, ok) => l.sendFrame codec ⟨request, requestId⟩ ok
  | none =>
    match answer with
    | .incoming response => l.takeFrame codec response
    | _ => some l

end Link

namespace Link

variable {codec} {l l' : Link} {w : Worker} {answer : Answer} {requestId : String} {now : ℤ}

theorem told_takeFrame {response : Option Response}
    (h : l.takeFrame codec (some response) = some l') :
    l'.told codec = l.told codec ++ dispatchIncoming response := by
  obtain ⟨hresponse, rfl⟩ := takeFrame_some h
  obtain ⟨frame, hframe, rfl⟩ := Option.map_eq_some_iff.mp hresponse
  simp [told, responses, List.take_add_one, hframe]

/-- What an answer adds to the accounts of the stream. -/
theorem answered_effect (h : l.answered codec w requestId now answer = some l') :
    (l.Sound codec → l'.Sound codec) ∧ l.requests <+: l'.requests ∧
      l'.envelopes = l.envelopes ++ accepted (w.asking now answer) ∧
      l'.told codec = l.told codec ++ answer.delivered := by
  unfold answered at h
  split at h
  · next request ok hasking =>
    have hdelivered : answer.delivered = [] := by
      cases answer with
      | incoming response => simp [Worker.asking] at hasking
      | _ => rfl
    refine ⟨fun hsound => hsound.sendFrame h, ?_⟩
    rw [hasking, hdelivered, List.append_nil]
    cases ok with
    | true =>
      obtain ⟨-, rfl⟩ := sendFrame_true h
      refine ⟨List.prefix_append .., ?_, rfl⟩
      simp only [envelopes, accepted, List.filterMap_append]
      cases hrequest : request.envelope? <;> simp [hrequest]
    | false =>
      obtain ⟨-, rfl⟩ := sendFrame_false h
      exact ⟨List.prefix_rfl, by simp [accepted], rfl⟩
  · next hasking =>
    rw [hasking]
    split at h
    · next response =>
      refine ⟨fun hsound => hsound.takeFrame h, ?_⟩
      cases response with
      | none =>
        obtain ⟨-, -, rfl⟩ := takeFrame_none h
        exact ⟨List.prefix_rfl, by simp [accepted], by simp [Answer.delivered]⟩
      | some response =>
        refine ⟨?_, ?_, told_takeFrame h⟩
        all_goals obtain ⟨-, rfl⟩ := takeFrame_some h
        · exact List.prefix_rfl
        · simp [accepted, envelopes]
    · next hother =>
      obtain rfl := Option.some.inj h
      have hdelivered : answer.delivered = [] := by
        cases answer with
        | incoming response => exact absurd rfl (hother response)
        | _ => rfl
      exact ⟨fun hsound => hsound, List.prefix_rfl, by simp [accepted], by simp [hdelivered]⟩

/-- The pump changes no account of the stream. -/
theorem pumpStep_effect (hsound : l.Sound codec) {dropped : Bool} {input : Grpc.PumpInput}
    (h : l.pumpStep dropped input = some l') :
    l'.requests = l.requests ∧ l'.told codec = l.told codec := by
  have htaken : l'.taken = l.taken ∧ l'.requests = l.requests := by
    obtain ⟨-, ⟨frame, rest, -, rfl⟩ | ⟨pump, -, -, rfl⟩ | ⟨lost, rest, -, rfl⟩⟩ := pumpStep_cases h
    all_goals exact ⟨rfl, rfl⟩
  obtain ⟨more, hmore⟩ := hsound.onFrame_prefix h
  refine ⟨htaken.2, ?_⟩
  rw [told, told, responses, responses, htaken.1, ← hmore,
    List.take_append_of_le_length hsound.taken]

end Link

/-- The worker, the watermark it read last, the streams it has let go, and the one it holds. -/
structure Streaming where
  worker : Worker
  since : Option String
  past : List Link
  held : Option Link
  deriving DecidableEq

/-- The label of a step: an answer to the worker, with the random id and the clock for a request it
makes, or a round of the pump of the stream it holds or of one it has let go. -/
inductive Action
  | worker (answer : Answer) (requestId : String) (now : ℤ)
  | pump (input : Grpc.PumpInput)
  | pastPump (k : ℕ) (input : Grpc.PumpInput)
  deriving DecidableEq, Repr

/-- The watermark after an answer. -/
def Answer.since (since : Option String) : Answer → Option String
  | .invalidated read => read
  | _ => since

namespace Streaming

def start (subscribedUsers : List String) : Streaming := ⟨.start subscribedUsers, none, [], none⟩

/-- All streams, in the order in which they were opened. -/
def links (s : Streaming) : List Link := s.past ++ s.held.toList

/-- The stream an answer leaves the worker with; no answer when the stream cannot give it. -/
def stream (s : Streaming) (requestId : String) (now : ℤ) (answer : Answer) :
    Option (Option Link) :=
  if answer = .openEnded .opened then
    some (some (openMessageStream codec s.worker.subscribedUsers s.since requestId))
  else match s.held with
    | none => some none
    | some l => (l.answered codec s.worker requestId now answer).map some

/-- A worker that has left the phases of an open stream drops it. -/
def settle (s : Streaming) : Streaming :=
  if s.worker.phase.holdsStream then s else { s with past := s.links, held := none }

def step (s : Streaming) : Action → Option Streaming
  | .worker answer requestId now =>
    match StreamWorker.step s.worker answer, s.stream codec requestId now answer with
    | some worker, some held =>
      some { s with worker := worker, since := answer.since s.since, held := held }.settle
    | _, _ => none
  | .pump input => s.held.bind fun l =>
    (l.pumpStep false input).map fun l => { s with held := some l }
  | .pastPump k input => (s.past[k]?).bind fun l =>
    (l.pumpStep true input).map fun l => { s with past := s.past.set k l }

/-- Every stream is sound and begins with a subscription; a stream is held in the phases that need
one; the envelopes the worker has handed over were accepted by its streams, one stream after
another, and what it has passed on is what it took from them. -/
structure Consistent (s : Streaming) : Prop where
  sound : ∀ l ∈ s.links, l.Sound codec
  subscribed : ∀ l ∈ s.links, ∃ ids since requestId rest,
    l.requests = ⟨.subscribe ids since false, requestId⟩ :: rest
  held : s.held.isSome = s.worker.phase.holdsStream
  handed : s.worker.envelopes .handed = s.links.flatMap Link.envelopes
  told : s.worker.told = s.links.flatMap (Link.told codec)

variable {codec} {s s' : Streaming}

theorem start_consistent (subscribedUsers : List String) :
    (start subscribedUsers).Consistent codec where
  sound := by simp [links, start]
  subscribed := by simp [links, start]
  held := rfl
  handed := rfl
  told := rfl

@[simp] theorem links_settle (s : Streaming) : s.settle.links = s.links := by
  unfold settle
  split <;> simp [links]

@[simp] theorem worker_settle (s : Streaming) : s.settle.worker = s.worker := by
  unfold settle
  split <;> rfl

/-- Dropping a stream changes no account. -/
theorem Consistent.of_settle (hsound : ∀ l ∈ s.links, l.Sound codec)
    (hsubscribed : ∀ l ∈ s.links, ∃ ids since requestId rest,
      l.requests = ⟨.subscribe ids since false, requestId⟩ :: rest)
    (hheld : s.worker.phase.holdsStream = true → s.held.isSome)
    (hhanded : s.worker.envelopes .handed = s.links.flatMap Link.envelopes)
    (htold : s.worker.told = s.links.flatMap (Link.told codec)) : s.settle.Consistent codec where
  sound := by simpa using hsound
  subscribed := by simpa using hsubscribed
  held := by
    unfold settle
    split
    · next hholds => rw [hheld hholds, hholds]
    · next hholds => simp [hholds]
  handed := by simpa using hhanded
  told := by simpa using htold

/-- Putting another stream at the end changes the accounts by what that stream has more. -/
theorem flatMap_links {α : Type} (f : Link → List α) {past : List Link} {l l' : Link}
    {more : List α} (h : f l' = f l ++ more) :
    (past ++ [l']).flatMap f = (past ++ [l]).flatMap f ++ more := by
  simp [h]

theorem worker_consistent (hs : s.Consistent codec) {answer : Answer} {requestId : String} {now : ℤ}
    (h : s.step codec (.worker answer requestId now) = some s') : s'.Consistent codec := by
  rw [step] at h
  split at h
  case h_2 => cases h
  case h_1 worker held hworker hstream =>
  obtain rfl := Option.some.inj h
  have hhanded := Worker.handed_step hworker now
  have htold := Worker.told_step hworker
  rw [hs.handed] at hhanded
  rw [hs.told] at htold
  rw [stream] at hstream
  split at hstream
  · next hopened =>
    subst hopened
    obtain ⟨hfree, -⟩ := Worker.holdsStream_opened hworker
    have hnone : s.held = none := by simpa [hfree] using hs.held
    obtain rfl := Option.some.inj hstream
    have hlinks : s.links = s.past := by simp [links, hnone]
    rw [hlinks] at hhanded htold
    refine .of_settle ?_ ?_ (fun _ => rfl) ?_ ?_
    · simp only [links, Option.toList_some, List.forall_mem_append, List.forall_mem_singleton]
      exact ⟨hlinks ▸ hs.sound, Link.sound_open _ _ _⟩
    · simp only [links, Option.toList_some, List.forall_mem_append, List.forall_mem_singleton]
      exact ⟨hlinks ▸ hs.subscribed, ⟨_, _, _, [], rfl⟩⟩
    · rw [hhanded]
      simp [links, Link.envelopes, openMessageStream, Request.envelope?, Worker.asking, accepted]
    · rw [htold]
      simp [links, Link.told, Link.responses, openMessageStream, Grpc.Pump.start, Answer.delivered]
  · next hopened =>
    have hholds := Worker.holdsStream_step hworker hopened
    cases hheld : s.held with
    | none =>
      rw [hheld] at hstream
      obtain rfl := Option.some.inj hstream
      have hfree : s.worker.phase.holdsStream = false := by simpa [hheld] using hs.held.symm
      obtain ⟨hasking, hdelivered⟩ := Worker.idle_of_step hworker hfree now
      have hlinks : s.links = s.past := by simp [links, hheld]
      refine .of_settle ?_ ?_ (fun hw => ?_) ?_ ?_
      · simpa [links] using hlinks ▸ hs.sound
      · simpa [links] using hlinks ▸ hs.subscribed
      · simp [hfree] at hholds
        exact absurd hw (by simp [hholds])
      · rw [hhanded, hasking, hlinks]
        simp [links, accepted]
      · rw [htold, hdelivered, hlinks]
        simp [links]
    | some l =>
      rw [hheld] at hstream
      obtain ⟨l', hl', rfl⟩ := Option.map_eq_some_iff.mp hstream
      obtain ⟨hsound, ⟨more, hmore⟩, henvelopes, htaken⟩ := Link.answered_effect hl'
      have hlinks : s.links = s.past ++ [l] := by simp [links, hheld]
      have hall := hs.sound
      have hfirst := hs.subscribed
      rw [hlinks] at hhanded htold hall hfirst
      simp only [List.forall_mem_append, List.forall_mem_singleton] at hall hfirst
      refine .of_settle ?_ ?_ (fun _ => rfl) ?_ ?_
      · simp only [links, Option.toList_some, List.forall_mem_append, List.forall_mem_singleton]
        exact ⟨hall.1, hsound hall.2⟩
      · simp only [links, Option.toList_some, List.forall_mem_append, List.forall_mem_singleton]
        obtain ⟨ids, since, id, rest, hrequests⟩ := hfirst.2
        exact ⟨hfirst.1, ids, since, id, rest ++ more, by rw [← hmore, hrequests, List.cons_append]⟩
      · exact hhanded.trans (flatMap_links Link.envelopes henvelopes).symm
      · exact htold.trans (flatMap_links (Link.told codec) htaken).symm

theorem flatMap_set {α : Type} {f : Link → List α} {past : List Link} {k : ℕ} {l l' : Link}
    (hl : past[k]? = some l) (h : f l' = f l) : (past.set k l').flatMap f = past.flatMap f := by
  obtain ⟨hk, rfl⟩ := List.getElem?_eq_some_iff.mp hl
  have hmap : (past.set k l').map f = past.map f := by
    rw [List.map_set, h, ← List.getElem_map f (h := by simpa using hk), List.set_getElem_self]
  rw [List.flatMap_def, hmap, ← List.flatMap_def]

/-- A round of the pump of some stream leaves the accounts as they are. -/
theorem Consistent.replace (hs : s.Consistent codec) {l l' : Link} {past : List Link}
    {held : Option Link} (hheld : held.isSome = s.held.isSome) (hl : l ∈ s.links)
    (hmem : ∀ k ∈ past ++ held.toList, k ∈ s.links ∨ k = l')
    (hsame : ∀ {α : Type} (f : Link → List α), f l' = f l →
      (past ++ held.toList).flatMap f = s.links.flatMap f)
    {dropped : Bool} {input : Grpc.PumpInput} (h : l.pumpStep dropped input = some l') :
    ({ s with past := past, held := held } : Streaming).Consistent codec := by
  obtain ⟨hrequests, htold⟩ := Link.pumpStep_effect (hs.sound l hl) h
  refine ⟨fun k hk => ?_, fun k hk => ?_, hheld.trans hs.held, ?_, ?_⟩
  · obtain hk | rfl := hmem k hk
    · exact hs.sound k hk
    · exact (hs.sound l hl).pumpStep h
  · obtain hk | rfl := hmem k hk
    · exact hs.subscribed k hk
    · rw [hrequests]
      exact hs.subscribed l hl
  · refine hs.handed.trans (hsame Link.envelopes ?_).symm
    rw [Link.envelopes, hrequests]
    rfl
  · exact hs.told.trans (hsame (Link.told codec) htold).symm

theorem step_consistent (hs : s.Consistent codec) {action : Action}
    (h : s.step codec action = some s') : s'.Consistent codec := by
  cases action with
  | worker answer requestId now => exact worker_consistent hs h
  | pump input =>
    obtain ⟨l, hl, h⟩ := Option.bind_eq_some_iff.mp h
    obtain ⟨l', hl', rfl⟩ := Option.map_eq_some_iff.mp h
    have hlinks : s.links = s.past ++ [l] := by simp [links, hl]
    refine hs.replace (by simp [hl]) (by simp [hlinks]) (fun k hk => ?_) (fun f hf => ?_) hl'
    · simp only [Option.toList_some, List.mem_append, List.mem_singleton] at hk
      rw [hlinks, List.mem_append]
      exact hk.imp_left .inl
    · rw [hlinks]
      simp [hf]
  | pastPump k input =>
    obtain ⟨l, hl, h⟩ := Option.bind_eq_some_iff.mp h
    obtain ⟨l', hl', rfl⟩ := Option.map_eq_some_iff.mp h
    have hmem : l ∈ s.links := List.mem_append_left _ (List.mem_of_getElem? hl)
    refine hs.replace rfl hmem (fun j hj => ?_) (fun f hf => ?_) hl'
    · obtain hj | hj := List.mem_append.mp hj
      · exact (List.mem_or_eq_of_mem_set hj).imp_left (List.mem_append_left _)
      · exact .inl (List.mem_append_right _ hj)
    · rw [List.flatMap_append, flatMap_set hl hf, links, List.flatMap_append]

/-! ### What the server can read -/

variable (s) in
/-- The envelopes the server can read, on one stream after another. -/
def writtenEnvelopes : List Envelope := s.links.flatMap Link.writtenEnvelopes

theorem worker_of_step {answer : Answer} {requestId : String} {now : ℤ}
    (h : s.step codec (.worker answer requestId now) = some s') :
    StreamWorker.step s.worker answer = some s'.worker := by
  rw [step] at h
  split at h
  · next worker held hworker hstream =>
    obtain rfl := Option.some.inj h
    rwa [worker_settle]
  · cases h

/-- The answers the worker gets about its stream are those of the stream it holds. -/
theorem answered_of_step (hs : s.Consistent codec) {answer : Answer} {requestId : String} {now : ℤ}
    (hholds : s.worker.phase.holdsStream = true) (hopened : answer ≠ .openEnded .opened)
    (h : s.step codec (.worker answer requestId now) = some s') :
    ∃ l l', s.held = some l ∧ l.answered codec s.worker requestId now answer = some l' ∧
      (s'.worker.phase.holdsStream = true → s'.held = some l') := by
  rw [step] at h
  split at h
  case h_2 => cases h
  case h_1 worker held hworker hstream =>
  obtain ⟨l, hl⟩ := Option.isSome_iff_exists.mp (hs.held.trans hholds)
  rw [stream, if_neg hopened, hl] at hstream
  obtain ⟨l', hl', rfl⟩ := Option.map_eq_some_iff.mp hstream
  obtain rfl := Option.some.inj h
  refine ⟨l, l', hl, hl', fun hphase => ?_⟩
  rw [worker_settle] at hphase
  rw [settle, if_pos hphase]

/-- The worker finds a stream ended only when it has taken every frame of it. -/
theorem held_of_end (hs : s.Consistent codec) {requestId : String} {now : ℤ}
    (h : s.step codec (.worker (.incoming none) requestId now) = some s') :
    ∃ l, s.held = some l ∧ l.taken = l.pump.onFrame.length := by
  have hworker := worker_of_step h
  have hholds : s.worker.phase.holdsStream = true := by
    cases hphase : s.worker.phase with
    | flushing | greeting | live => rfl
    | loopHead | invalidating | opening | backingOff | sleeping | exited =>
      simp [StreamWorker.step, hphase] at hworker
  obtain ⟨l, l', hl, hanswered, -⟩ := answered_of_step hs hholds (by simp) h
  have hnone : l.takeFrame codec none = some l' := hanswered
  obtain ⟨-, hend, -⟩ := Link.takeFrame_none hnone
  exact ⟨l, hl, hend⟩

/-- What is written was handed over, in this order. -/
theorem Consistent.written_sublist (hs : s.Consistent codec) :
    s.writtenEnvelopes.Sublist (s.worker.envelopes .handed) := by
  rw [hs.handed, writtenEnvelopes]
  exact List.Sublist.flatMap_right _ fun l _ => (List.take_sublist ..).filterMap _

/-! ### The order of the envelopes -/

/-- The envelopes keep their order. While a stream is live no envelope waits; while one is greeted
none does either, or the stream has ended and cannot be greeted. -/
structure Ordered (s : Streaming) : Prop where
  inOrder : s.worker.ledger.InOrder
  live : s.worker.phase = .live → s.worker.pending = []
  greeting : s.worker.phase = .greeting →
    s.worker.pending = [] ∨ ∃ l, s.held = some l ∧ l.returned = true

theorem start_ordered (subscribedUsers : List String) : (start subscribedUsers).Ordered where
  inOrder := List.Sublist.refl []
  live _ := rfl
  greeting _ := .inl rfl

theorem worker_ordered (hs : s.Consistent codec) (ho : s.Ordered) {answer : Answer}
    {requestId : String} {now : ℤ} (h : s.step codec (.worker answer requestId now) = some s') :
    s'.Ordered := by
  have hworker := worker_of_step h
  refine ⟨?_, fun hlive => ?_, fun hgreeting => ?_⟩
  · cases step_effect hworker with
    | idle hledger => exact hledger ▸ ho.inOrder
    | take envelope hledger => exact hledger ▸ ho.inOrder.take outgoingBufferCap envelope
    | pass envelope hledger hphase => exact hledger ▸ ho.inOrder.pass (ho.live hphase) envelope
    | hand envelope rest hpending hledger => exact hledger ▸ ho.inOrder.hand hpending
    | lose envelope rest hpending hledger => exact hledger ▸ ho.inOrder.lose hpending
  · obtain ⟨hpending, hphase | ⟨hphase, rfl⟩⟩ := step_live hworker hlive
    · exact hpending.trans (ho.live hphase)
    · obtain hempty | ⟨l, hl, hreturned⟩ := ho.greeting hphase
      · exact hpending.trans hempty
      · -- a stream that has ended does not take the greeting
        obtain ⟨k, k', hk, hanswered, -⟩ := answered_of_step hs (by rw [hphase]; rfl) (by simp) h
        obtain rfl := Option.some.inj (hl.symm.trans hk)
        simp only [Link.answered, Worker.asking, hphase] at hanswered
        exact absurd (Link.sendFrame_true hanswered).1 (by simp [hreturned])
  · obtain hempty | ⟨hphase, rfl⟩ := step_greeting hworker hgreeting
    · exact .inl hempty
    · -- the send of the flush fails because the stream has ended
      obtain ⟨l, l', hl, hanswered, hheld⟩ :=
        answered_of_step hs (by rw [hphase]; rfl) (by simp) h
      cases hpending : s.worker.pending with
      | nil => simp [StreamWorker.step, hphase, hpending] at hworker
      | cons envelope rest =>
        simp only [Link.answered, Worker.asking, hphase, hpending] at hanswered
        obtain ⟨hreturned, rfl⟩ := Link.sendFrame_false hanswered
        exact .inr ⟨l', hheld (by rw [hgreeting]; rfl), hreturned⟩

theorem step_ordered (hs : s.Consistent codec) (ho : s.Ordered) {action : Action}
    (h : s.step codec action = some s') : s'.Ordered := by
  cases action with
  | worker answer requestId now => exact worker_ordered hs ho h
  | pump input =>
    obtain ⟨l, hl, h⟩ := Option.bind_eq_some_iff.mp h
    obtain ⟨l', hl', rfl⟩ := Option.map_eq_some_iff.mp h
    refine ⟨ho.inOrder, ho.live, fun hgreeting => (ho.greeting hgreeting).imp_right ?_⟩
    rintro ⟨k, hk, hreturned⟩
    obtain rfl := Option.some.inj (hl.symm.trans hk)
    exact absurd (Link.pumpStep_cases hl').1 (by simp [hreturned])
  | pastPump k input =>
    obtain ⟨l, -, h⟩ := Option.bind_eq_some_iff.mp h
    obtain ⟨l', -, rfl⟩ := Option.map_eq_some_iff.mp h
    exact ⟨ho.inOrder, ho.live, ho.greeting⟩

/-! ### Runs -/

theorem consistent_after {ids : List String} {actions : List Action}
    (h : Run.after (step codec) (start ids) actions = some s) : s.Consistent codec :=
  Run.invariant (fun _ _ _ hs hstep => step_consistent hs hstep) (start_consistent ids) h

theorem ordered_after {ids : List String} {actions : List Action}
    (h : Run.after (step codec) (start ids) actions = some s) : s.Ordered :=
  (Run.invariant (I := fun s => s.Consistent codec ∧ s.Ordered)
    (fun _ _ _ hs hstep => ⟨step_consistent hs.1 hstep, step_ordered hs.1 hs.2 hstep⟩)
    ⟨start_consistent ids, start_ordered ids⟩ h).2

/-- On every stream the server can read a subscription, and then the requests the stream accepted,
in order and each of them whole. Over all streams it reads what the app sent, in the order in which
it was sent and nothing twice. -/
theorem written_from_consumed {ids : List String} {actions : List Action}
    (h : Run.after (step codec) (start ids) actions = some s) :
    (∀ l ∈ s.links, l.pump.sent = l.written.map codec.frame ∧
      (∃ conversationIds since requestId, l.written.head? =
        some ⟨.subscribe conversationIds since false, requestId⟩) ∧
      ((∀ request ∈ l.written, (codec.encode request).length < 2 ^ 32) →
        Grpc.frames.drain l.pump.sent.flatten = (l.written.map codec.frame, []) ∧
          l.pump.sent.map Grpc.decodeFrame =
            l.written.map fun request => .ok (codec.encode request, []))) ∧
      s.writtenEnvelopes.Sublist (s.worker.envelopes .consumed) := by
  have hs := consistent_after h
  refine ⟨fun l hl => ?_, ?_⟩
  · have hsound := hs.sound l hl
    refine ⟨hsound.sent_eq, ?_, hsound.readable⟩
    obtain ⟨conversationIds, since, requestId, rest, hrequests⟩ := hs.subscribed l hl
    refine ⟨conversationIds, since, requestId, ?_⟩
    have hne := hsound.written_ne_nil
    rw [Link.written, hrequests] at hne ⊢
    cases hlength : l.pump.sent.length with
    | zero => simp [hlength] at hne
    | succ n => rfl
  · have horder : s.worker.ledger.InOrder := (ordered_after h).inOrder
    exact hs.written_sublist.trans ((List.sublist_append_left ..).trans horder)

/-- A codec that writes one byte for each kind of request, and reads one byte as an
acknowledgement. -/
def tinyCodec : StreamCodec where
  encode r := [if r.request.envelope?.isSome then 1 else 0]
  decode message := if message = [7] then some ⟨some (.ack "m"), some "1-0"⟩ else none

/-- Two envelopes are sent before the stream is open, and the stream ends before they are flushed.
The first one is lost, and the second is written on the next stream. -/
def twoStreamsRun : List Action :=
  [.worker (.polled (.command (.send hello))) "" 0, .worker (.invalidated none) "" 0,
    .worker (.openEnded .failed) "" 0, .worker (.delayDrawn 1000) "" 0,
    .worker (.received (some (.send { hello with messageId := "m2" })) true) "" 0,
    .worker (.polled .empty) "" 0, .worker (.invalidated none) "" 0,
    .worker (.openEnded .opened) "r0" 0, .pump .recvError, .worker (.sendEnded false) "r1" 0,
    .worker (.sendEnded false) "r2" 5, .worker (.delayDrawn 1000) "" 0, .worker .elapsed "" 0,
    .worker (.polled .empty) "" 0, .worker (.invalidated none) "" 0,
    .worker (.openEnded .opened) "r3" 0, .worker (.sendEnded true) "r4" 0,
    .pump (.outgoing (some (Grpc.encodeFrame [1])) true)]

theorem written_from_consumed_second : ∃ s,
    Run.after (step tinyCodec) (start ["bob"]) twoStreamsRun = some s ∧
      s.writtenEnvelopes = [{ hello with messageId := "m2" }] ∧
      s.writtenEnvelopes.Sublist (s.worker.envelopes .consumed) ∧
      ∀ l ∈ s.links, Grpc.frames.drain l.pump.sent.flatten =
        (l.written.map tinyCodec.frame, []) := by
  obtain ⟨s, hs⟩ : ∃ s, Run.after (step tinyCodec) (start ["bob"]) twoStreamsRun = some s :=
    Option.isSome_iff_exists.mp (by decide +kernel)
  have hwritten : (Run.after (step tinyCodec) (start ["bob"]) twoStreamsRun).map writtenEnvelopes =
      some [{ hello with messageId := "m2" }] := by decide +kernel
  rw [hs] at hwritten
  obtain ⟨hlinks, hsublist⟩ := written_from_consumed hs
  exact ⟨s, hs, Option.some.inj hwritten, hsublist,
    fun l hl => ((hlinks l hl).2.2 fun request _ => by simp [tinyCodec]).1⟩

/-- The worker passes on what the server says and nothing else: stream after stream, the frames that
are complete in the bytes received, in order, each once and none left out, up to where it has come.
A stream it gives up because it has ended is read to the end. -/
theorem delivered_in_order {ids : List String} {actions : List Action}
    (h : Run.after (step codec) (start ids) actions = some s) :
    s.worker.told = s.links.flatMap (fun l => (l.responses codec).flatMap dispatchIncoming) ∧
      (∀ l ∈ s.links, l.responses codec =
          ((Grpc.frames.drain l.received).1.take l.taken).map codec.decodeIncoming ∧
        ∀ messages : List Bytes, (∀ m ∈ messages, m.length < 2 ^ 32) →
          l.received <+: (messages.map Grpc.encodeFrame).flatten →
          l.responses codec = (messages.take l.taken).map codec.decode) ∧
      ∀ requestId now s', s.step codec (.worker (.incoming none) requestId now) = some s' →
        ∃ l, s.held = some l ∧
          l.responses codec = (Grpc.frames.drain l.received).1.map codec.decodeIncoming := by
  have hs := consistent_after h
  refine ⟨hs.told, fun l hl => ⟨?_, fun messages => (hs.sound l hl).responses_of_isPrefix⟩,
    fun requestId now s' hstep => ?_⟩
  · rw [← (hs.sound l hl).drained]
    rfl
  · obtain ⟨l, hheld, hend⟩ := held_of_end hs hstep
    refine ⟨l, hheld, ?_⟩
    rw [← (hs.sound l (by simp [links, hheld])).drained, Link.responses, hend, List.take_length]

/-- An envelope is sent before the stream is open; the acknowledgement comes in two chunks, and then
the server closes the stream. -/
def helloRun : List Action :=
  [.worker (.polled (.command (.send hello))) "" 0, .worker (.invalidated none) "" 0,
    .worker (.openEnded .opened) "r0" 0, .worker (.sendEnded true) "r1" 0,
    .pump (.outgoing (some (Grpc.encodeFrame [1])) true), .worker (.sendEnded true) "r2" 5,
    .pump (.chunk [0, 0, 0]), .pump .timeout, .pump (.chunk [0, 1, 7]), .pump .closed,
    .worker (.incoming (some (some ⟨some (.ack "m"), some "1-0"⟩))) "" 0]

theorem delivered_in_order_hello : ∃ s,
    Run.after (step tinyCodec) (start ["bob"]) helloRun = some s ∧
      s.worker.told = [.ack "m" (some "1-0")] ∧
      s.worker.told = s.links.flatMap (fun l => (l.responses tinyCodec).flatMap dispatchIncoming) ∧
      ∃ l, s.held = some l ∧ l.responses tinyCodec =
        (Grpc.frames.drain l.received).1.map tinyCodec.decodeIncoming := by
  obtain ⟨s, hs⟩ : ∃ s, Run.after (step tinyCodec) (start ["bob"]) helloRun = some s :=
    Option.isSome_iff_exists.mp (by decide +kernel)
  have htold : (Run.after (step tinyCodec) (start ["bob"]) helloRun).map (fun s => s.worker.told) =
      some [.ack "m" (some "1-0")] := by decide +kernel
  have hend : ((Run.after (step tinyCodec) (start ["bob"]) helloRun).bind fun s =>
      s.step tinyCodec (.worker (.incoming none) "" 0)).isSome = true := by decide +kernel
  rw [hs] at htold hend
  obtain ⟨s', hs'⟩ := Option.isSome_iff_exists.mp hend
  obtain ⟨hall, -, hclosed⟩ := delivered_in_order hs
  exact ⟨s, hs, Option.some.inj htold, hall, hclosed "" 0 s' hs'⟩

end Streaming

end StreamWorker

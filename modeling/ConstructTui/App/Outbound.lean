import ConstructTui.App.Feeds
import ConstructTui.App.Reopening
import ConstructTui.Orchestrator.Sending
import ConstructTui.Stream.Wire

/-!
# From the task to the connection

What the orchestrator task sends goes through the channel of the worker, which the app writes to as
well, and then over one stream after another. The app puts no envelope there, and nothing on the way
changes one: whatever order all of them move in, each envelope on the connection was written by the
task of the account that is signed in.

## Main definitions

* `Pipeline.Sends`: what waits for the worker, and what it has consumed, was written by the task.

## Main results

* `Sys.sent_signed`: what the server and a peer read.
-/

variable {ε : Type} {E : AppExternals ε}

namespace Pipeline

/-- The task writes envelopes of its account only, and none of another kind waits for the worker or
has been consumed by it. -/
structure Sends (p : Pipeline ε) : Prop where
  program : p.program.Keeps (OrchestratorTask.Queues p.config)
  waiting : ∀ cmd ∈ p.world.streamTx, ∀ e ∈ cmd.envelope?, e.SignedBy p.config
  consumed : ∀ e ∈ p.worker.envelopes .consumed, e.SignedBy p.config

theorem Launched.sends {p : Pipeline ε} (h : p.Launched E) : p.Sends := by
  obtain ⟨ans, userId, deviceId, contactIds, identitySecret, core, db, rfl⟩ := h
  exact ⟨.pure (), List.forall_mem_nil _, List.forall_mem_nil _⟩

/-- An answer takes the first command, or leaves the channel as it is. -/
theorem channelAfter_cases {channel rest : List StreamCmd} {answer : StreamWorker.Answer}
    (h : channelAfter channel answer = some rest) :
    (∃ cmd, answer.command? = some cmd ∧ channel = cmd :: rest) ∨
      answer.command? = none ∧ rest = channel := by
  unfold channelAfter at h
  split at h
  case h_1 =>
    split at h <;> cases h
    exact .inr ⟨rfl, rfl⟩
  case h_2 | h_3 => cases h
  case h_4 cmd | h_5 cmd ok =>
    split at h
    · cases h
    · next c rest' =>
      rw [Option.ite_none_right_eq_some] at h
      obtain ⟨rfl, h⟩ := h
      obtain rfl := Option.some.inj h
      exact .inl ⟨c, rfl, rfl⟩
  all_goals exact .inr ⟨rfl, (Option.some.inj h).symm⟩

variable {p p' : Pipeline ε}

theorem Sends.given (hp : p.Sends) (h : p.Given p') : p'.Sends := by
  obtain ⟨cmds, hcmds, htx⟩ := h.streamTx
  refine ⟨?_, fun cmd hcmd e he => ?_, ?_⟩
  · rw [h.program, h.config]
    exact hp.program
  · rw [h.config]
    rw [htx] at hcmd
    obtain hcmd | hcmd := List.mem_append.mp hcmd
    · exact hp.waiting cmd hcmd e he
    · rw [hcmds cmd hcmd] at he
      cases he
  · rw [h.worker, h.config]
    exact hp.consumed

/-- The worker consumes what waits for it. -/
theorem Sends.workerStep (hp : p.Sends) {answer : StreamWorker.Answer}
    (h : p.workerStep answer = some p') : p'.Sends := by
  unfold Pipeline.workerStep at h
  split at h
  · next channel worker hchannel hworker =>
    split at h
    · obtain rfl := Option.some.inj h
      have hconsumed := StreamWorker.Worker.consumed_step hworker
      obtain ⟨cmd, hcmd, hcons⟩ | ⟨hnone, hsame⟩ := channelAfter_cases hchannel
      · rw [hcmd] at hconsumed
        refine ⟨hp.program, fun c hc => hp.waiting c ?_, fun e he => ?_⟩
        · rw [hcons]
          exact List.mem_cons_of_mem _ hc
        · rw [hconsumed, List.mem_append] at he
          obtain he | he := he
          · exact hp.consumed e he
          · refine hp.waiting cmd ?_ e (by simpa using he)
            rw [hcons]
            exact List.mem_cons_self
      · rw [hnone] at hconsumed
        refine ⟨hp.program, fun c hc => hp.waiting c (hsame ▸ hc), fun e he => ?_⟩
        exact hp.consumed e (by simpa [hconsumed] using he)
    · cases h
  · cases h

/-- The pipeline has its program, its channel and its worker still. -/
theorem Sends.congr (hp : p.Sends) (hconfig : p'.config = p.config)
    (hprogram : p'.program = p.program) (htx : p'.world.streamTx = p.world.streamTx)
    (hworker : p'.worker = p.worker) : p'.Sends := by
  refine ⟨?_, ?_, ?_⟩
  · rw [hprogram, hconfig]
    exact hp.program
  · rw [htx, hconfig]
    exact hp.waiting
  · rw [hworker, hconfig]
    exact hp.consumed

theorem Sends.relayStep (hp : p.Sends) {r : Pipeline ε × List InternalEvent}
    (h : p.relayStep E = some r) : r.1.Sends := by
  obtain ⟨event, -, rfl⟩ := Option.map_eq_some_iff.mp h
  cases event with
  | message envelope streamCursor =>
    unfold relayEvent
    dsimp only
    split <;> exact hp.congr rfl rfl rfl rfl
  | ack messageId streamCursor =>
    refine hp.congr rfl rfl ?_ rfl
    show ((CursorTracker.note messageId streamCursor).run p.world).2.streamTx = p.world.streamTx
    unfold CursorTracker.note
    split <;> rfl
  | _ => exact hp.congr rfl rfl rfl rfl

theorem Sends.take (hp : p.Sends) {fromCommands : Bool} (h : p.take E fromCommands = some p') :
    p'.Sends := by
  obtain ⟨-, ⟨-, cmd, commands, -, rfl⟩ | ⟨-, event, events, -, rfl⟩⟩ := take_cases h
  · exact ⟨OrchestratorTask.handleCommand_queues cmd, hp.waiting, hp.consumed⟩
  · exact ⟨OrchestratorTask.handleRx_queues event, hp.waiting, hp.consumed⟩

theorem Sends.subTaskStep (hp : p.Sends) {k : ℕ} {bundle : Except String String}
    {r : Pipeline ε × List InternalEvent} (h : p.subTaskStep k bundle = some r) : r.1.Sends := by
  unfold Pipeline.subTaskStep at h
  split at h
  · cases h
  · obtain ⟨task, -, rfl⟩ := Option.map_eq_some_iff.mp h
    dsimp only
    split <;> exact hp.congr rfl rfl rfl rfl

/-- An atomic step of the task may put envelopes into the channel. -/
theorem Sends.worked (hp : p.Sends) {db : Storage} {program : Prog (TaskWorld ε) Unit}
    {world : TaskWorld ε}
    (h : p.program.step { p.world with storage := db } = some (program, world)) :
    ({ p with program := program, world := { world with ui := [] } } : Pipeline ε).Sends := by
  obtain ⟨⟨envelopes, hsigned, htx⟩, hprogram⟩ := hp.program.step h
  refine ⟨hprogram, fun cmd hcmd e he => ?_, hp.consumed⟩
  change cmd ∈ world.streamTx at hcmd
  rw [htx, List.mem_append, List.mem_map] at hcmd
  obtain hcmd | ⟨e', he', rfl⟩ := hcmd
  · exact hp.waiting cmd hcmd e he
  · obtain rfl : e' = e := Option.some.inj he
    exact hsigned e' he'

theorem Sends.next (hp : p.Sends) {i : ℕ} {a : Label ε} (h : p.Next E i a p') : p'.Sends := by
  cases h with
  | given hlabel h => exact hp.given h
  | moved h =>
    cases h with
    | worker answer h => exact hp.workerStep h
    | relay h => exact hp.relayStep h
    | take fromCommands h => exact hp.take h
    | subTask k bundle h => exact hp.subTaskStep h
  | worked hlabel db h => exact hp.worked h

end Pipeline

namespace Sys

/-- In every run, each envelope that a worker has consumed was written by the task of its pipeline:
the sender is the account, and the sending device its device. So is each envelope that the server
can read, on whatever stream; and a peer that gets it unchanged and can unpack its payload reads the
account, the message's id, its payload and its content type in it. It reads a reset of the session
even when it cannot unpack the payload. -/
theorem sent_signed {cfg : AppConfig} {dir : ConfigDir} {db : Storage} {as : List (Label ε)}
    {s : Sys ε} (h : Run.after (step E) (start ε cfg dir db) as = some s) {i : ℕ} {p : Pipeline ε}
    (hp : s.pipelines[i]? = some p) :
    (∀ e ∈ p.worker.envelopes .consumed, e.SignedBy p.config) ∧
      ∀ (codec : StreamWorker.StreamCodec) (ids : List String)
        (actions : List StreamWorker.Action) (t : StreamWorker.Streaming),
        Run.after (StreamWorker.Streaming.step codec) (.start ids) actions = some t →
        t.worker = p.worker → ∀ e ∈ t.writtenEnvelopes, e.SignedBy p.config ∧
          ∀ (peer : EnvelopeCodec) (peerSecret : Bytes) (streamCursor : Option String)
            (header : WireHeader),
            (peer.unpack e.encryptedPayload = .ok header ∨
              (∃ error, peer.unpack e.encryptedPayload = .error error) ∧ header = ⟨0, none, 0⟩ ∧
                isSessionResetControlType e.contentType = true) →
            inboundCommand peer peerSecret e.forwarded streamCursor = some (.streamMessage
              (.messageReceived e.messageId p.config.myUserId e.encryptedPayload
                header.messageNumber (header.kemCiphertext.getD []) header.oneTimePrekeyId
                (isSessionResetControlType e.contentType) e.contentType)
              ⟨p.config.myUserId, e.messageId, streamCursor, e.contentType,
                header.messageNumber⟩) := by
  let nothing : Pipeline ε → Label ε → List Unit := fun _ _ => []
  have hsends : p.Sends := pipeline_invariant nothing (J := fun _ p => p.Sends)
    (fun _ => Pipeline.Launched.sends) (fun _ _ _ _ hp hnext => hp.next hnext) h hp
  refine ⟨hsends.consumed, fun codec ids actions t ht hworker e he => ?_⟩
  have hconsumed := (StreamWorker.Streaming.written_from_consumed ht).2.subset he
  rw [hworker] at hconsumed
  have hsigned := hsends.consumed e hconsumed
  exact ⟨hsigned, fun peer peerSecret streamCursor header hheader =>
    hsigned.inboundCommand_eq peer peerSecret streamCursor hheader⟩

/-- What the second contact is written. -/
def letterToSecond : Envelope :=
  buildEnvelope "me" "phone" "bob" (Knst.encodeText .tagged "hi" "m") "m" ContentType.e2eeSignal

/-- The user writes to the second contact, the task sends the message and the worker takes it. -/
def mailsSecond : List (Label Unit) :=
  writesSecond ++ handlesFour ++ [.worker 0 (.received (some (.send letterToSecond)) true)]

/-- The stream of the same client. The pump writes the heartbeat, then the message. -/
def mailRun : List StreamWorker.Action :=
  [.worker (.polled .empty) "" 0, .worker (.invalidated none) "" 0,
    .worker (.openEnded .opened) "r0" 0, .worker (.sendEnded true) "r1" 5,
    .worker (.received (some (.send letterToSecond)) true) "r2" 0,
    .pump (.outgoing (some (Grpc.encodeFrame [0])) true),
    .pump (.outgoing (some (Grpc.encodeFrame [1])) true)]

/-- A peer that finds the number of a message in the first byte of its payload. -/
def firstBytePeer : EnvelopeCodec where
  sealedInner _ := .error "sealed"
  unsealSenderCert _ _ := .error "sealed"
  senderUserId _ := .error "sealed"
  unpack
    | [] => .error "empty"
    | number :: _ => .ok ⟨number.toUInt32, none, 0⟩

theorem sent_signed_acquainted : ∃ s p t,
    Run.after (step .recording) acquainted mailsSecond = some s ∧ s.pipelines[0]? = some p ∧
    Run.after (StreamWorker.Streaming.step StreamWorker.Streaming.tinyCodec)
      (.start ["alice", "bob"]) mailRun = some t ∧
    t.writtenEnvelopes = [letterToSecond] ∧ letterToSecond.SignedBy p.config ∧
    inboundCommand firstBytePeer [] letterToSecond.forwarded (some "1-0") = some (.streamMessage
      (.messageReceived "m" "me" (Knst.encodeText .tagged "hi" "m") 0x4B [] 0 false 1)
      ⟨"me", "m", some "1-0", 1, 0x4B⟩) := by
  obtain ⟨p, hp⟩ : ∃ p, ((Run.after (step .recording) acquainted mailsSecond).bind fun s =>
      s.pipelines[0]?) = some p := Option.isSome_iff_exists.mp (by decide +kernel)
  obtain ⟨t, ht⟩ : ∃ t, Run.after (StreamWorker.Streaming.step StreamWorker.Streaming.tinyCodec)
      (.start ["alice", "bob"]) mailRun = some t := Option.isSome_iff_exists.mp (by decide +kernel)
  have hworkers : (Run.after (StreamWorker.Streaming.step StreamWorker.Streaming.tinyCodec)
        (.start ["alice", "bob"]) mailRun).map (fun t => t.worker) =
      ((Run.after (step .recording) acquainted mailsSecond).bind fun s =>
        s.pipelines[0]?).map fun p => p.worker := by decide +kernel
  have hwritten : (Run.after (StreamWorker.Streaming.step StreamWorker.Streaming.tinyCodec)
      (.start ["alice", "bob"]) mailRun).map StreamWorker.Streaming.writtenEnvelopes =
      some [letterToSecond] := by decide +kernel
  have hme : ((Run.after (step .recording) acquainted mailsSecond).bind fun s =>
      s.pipelines[0]?).map (fun p => p.config.myUserId) = some "me" := by decide +kernel
  rw [ht, hp] at hworkers
  rw [ht] at hwritten
  rw [hp] at hme
  obtain ⟨s, hs, hp⟩ := Option.bind_eq_some_iff.mp hp
  have hwritten := Option.some.inj hwritten
  obtain ⟨-, hall⟩ := sent_signed hs hp
  obtain ⟨hsigned, hpeer⟩ :=
    hall _ _ _ t ht (Option.some.inj hworkers) letterToSecond (by simp [hwritten])
  refine ⟨s, p, t, hs, hp, ht, hwritten, hsigned, ?_⟩
  have hread := hpeer firstBytePeer [] (some "1-0") ⟨0x4B, none, 0⟩ (.inl (by decide))
  have hme : p.config.myUserId = "me" := Option.some.inj hme
  rw [hme] at hread
  exact hread

end Sys

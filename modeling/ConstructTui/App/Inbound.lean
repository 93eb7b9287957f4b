import ConstructTui.App.Channels
import ConstructTui.App.Feeds
import ConstructTui.Stream.Wire

/-!
# From the connection to the task

What the server sends reaches the orchestrator task through four queues: the frames of the stream,
the events of the worker, the commands of the task, and the task itself, which takes the next
command when it has nothing under way. The app puts commands in the same channel. Whatever order all
of them move in, the task takes the messages of the stream as the server sent them.

## Main definitions

* `OrchestratorCommand.fromStream`: the commands that bring a message of the stream.
* `Pipeline.inbound`: the command the relay makes of an event of the worker.
* `Sys.takenAt`: the command a step takes from the channel of a task.

## Main results

* `Sys.inbound_in_order`: what the task has taken, what waits for it, and what the server has sent.
-/

variable {ε : Type} {E : AppExternals ε}

/-- The command brings a message of the stream. -/
def OrchestratorCommand.fromStream : OrchestratorCommand → Bool
  | .streamMessage _ _ => true
  | .forgetContact _ => false

theorem fromStream_inboundCommand {codec : EnvelopeCodec} {identitySecret : Bytes}
    {envelope : WireEnvelope} {streamCursor : Option String} {cmd : OrchestratorCommand}
    (h : inboundCommand codec identitySecret envelope streamCursor = some cmd) :
    cmd.fromStream = true := by
  unfold inboundCommand at h
  split at h
  · cases h
  · dsimp only at h
    split at h
    · obtain rfl := Option.some.inj h
      rfl
    · split at h
      · obtain rfl := Option.some.inj h
        rfl
      · cases h

namespace Pipeline

variable (E) in
/-- What the relay makes of an event of the worker for the task. -/
def inbound (p : Pipeline ε) : StreamEvent → Option OrchestratorCommand
  | .message envelope streamCursor => inboundCommand E.codec p.identitySecret envelope streamCursor
  | _ => none

/-- Only what the server said becomes a command. -/
theorem inbound_eq_none {p : Pipeline ε} {event : StreamEvent} (h : event.fromServer = false) :
    p.inbound E event = none := by
  cases event with
  | message envelope streamCursor => simp [StreamEvent.fromServer] at h
  | _ => rfl

theorem filterMap_inbound (p : Pipeline ε) (events : List StreamEvent) :
    (events.filter StreamEvent.fromServer).filterMap (p.inbound E) =
      events.filterMap (p.inbound E) := by
  rw [List.filterMap_filter]
  refine List.filterMap_congr fun event _ => ?_
  split
  · rfl
  · next h => exact (inbound_eq_none (by simpa using h)).symm

/-- What the relay has passed on. -/
def passedOn (p : Pipeline ε) : List StreamEvent := p.worker.events.take p.relayed

variable (E) in
/-- The messages of the stream that the task has taken, and those that wait for it, are those that
the relay has passed on. -/
structure Relays (past : List OrchestratorCommand) (p : Pipeline ε) : Prop where
  relayed : p.relayed ≤ p.worker.events.length
  commands : (past ++ p.commands).filter OrchestratorCommand.fromStream =
    p.passedOn.filterMap (p.inbound E)

theorem Launched.relays {p : Pipeline ε} (h : p.Launched E) : p.Relays E [] := by
  obtain ⟨ans, userId, deviceId, contactIds, identitySecret, core, db, rfl⟩ := h
  exact ⟨Nat.zero_le _, rfl⟩

variable {past : List OrchestratorCommand} {p p' : Pipeline ε}

/-- The app only adds commands that bring no message. -/
theorem Relays.given (hp : p.Relays E past) (h : p.Given p') : p'.Relays E past := by
  obtain ⟨ids, hids⟩ := h.commands
  have hforget : (ids.map OrchestratorCommand.forgetContact).filter
      OrchestratorCommand.fromStream = [] := by
    rw [List.filter_eq_nil_iff]
    intro cmd hcmd
    obtain ⟨id, -, rfl⟩ := List.mem_map.mp hcmd
    exact Bool.false_ne_true
  have hinbound : p'.inbound E = p.inbound E := by
    funext event
    cases event with
    | message envelope streamCursor =>
      exact congrArg (inboundCommand E.codec · _ _) h.identitySecret
    | _ => rfl
  refine ⟨?_, ?_⟩
  · rw [h.relayed, h.worker]
    exact hp.relayed
  · rw [hids, ← List.append_assoc, List.filter_append, hforget, List.append_nil, passedOn, h.worker,
      h.relayed, hinbound]
    exact hp.commands

/-- The worker only adds events. -/
theorem Relays.workerStep (hp : p.Relays E past) {answer : StreamWorker.Answer}
    (h : p.workerStep answer = some p') : p'.Relays E past := by
  unfold Pipeline.workerStep at h
  split at h
  · next channel worker _ hworker =>
    split at h
    · obtain rfl := Option.some.inj h
      obtain ⟨more, hmore⟩ := StreamWorker.Worker.events_step hworker
      have htake : worker.events.take p.relayed = p.passedOn := by
        rw [← hmore, List.take_append_of_le_length hp.relayed, passedOn]
      refine ⟨?_, ?_⟩
      · exact hp.relayed.trans (List.IsPrefix.length_le ⟨more, hmore⟩)
      · exact hp.commands.trans (congrArg (List.filterMap (p.inbound E)) htake.symm)
    · cases h
  · cases h

/-- The relay passes the next event on. -/
theorem Relays.relayStep (hp : p.Relays E past) {r : Pipeline ε × List InternalEvent}
    (h : p.relayStep E = some r) : r.1.Relays E past := by
  obtain ⟨event, hevent, rfl⟩ := Option.map_eq_some_iff.mp h
  obtain ⟨hlt, rfl⟩ := List.getElem?_eq_some_iff.mp hevent
  have htake :
      p.worker.events.take (p.relayed + 1) = p.passedOn ++ [p.worker.events[p.relayed]] := by
    rw [List.take_add_one, hevent, passedOn]
    rfl
  generalize hlast : p.worker.events[p.relayed] = event at htake ⊢
  have hpassed : (p.worker.events.take (p.relayed + 1)).filterMap (p.inbound E) =
      (past ++ p.commands).filter OrchestratorCommand.fromStream ++ (p.inbound E event).toList := by
    rw [htake, List.filterMap_append, hp.commands, List.filterMap_cons]
    cases p.inbound E event <;> rfl
  cases event with
  | message envelope streamCursor =>
    have hinbound : p.inbound E (.message envelope streamCursor) =
      inboundCommand E.codec p.identitySecret envelope streamCursor := rfl
    unfold relayEvent
    dsimp only
    split
    · next cmd hcmd =>
      refine ⟨hlt, ?_⟩
      rw [hinbound, hcmd] at hpassed
      refine Eq.trans ?_ hpassed.symm
      show (past ++ (p.commands ++ [cmd])).filter _ = _
      rw [← List.append_assoc, List.filter_append, List.filter_singleton,
        fromStream_inboundCommand hcmd]
      rfl
    · next hcmd =>
      rw [hinbound, hcmd] at hpassed
      exact ⟨hlt, ((List.append_nil _).symm.trans hpassed.symm)⟩
  | _ => exact ⟨hlt, ((List.append_nil _).symm.trans hpassed.symm)⟩

/-- The task takes the first command. -/
theorem Relays.take (hp : p.Relays E past) {fromCommands : Bool}
    (h : p.take E fromCommands = some p') :
    p'.Relays E (past ++ if fromCommands then p.commands.take 1 else []) := by
  obtain ⟨-, ⟨rfl, cmd, commands, hcommands, rfl⟩ | ⟨rfl, event, events, -, rfl⟩⟩ := take_cases h
  · refine ⟨hp.relayed, ?_⟩
    rw [if_pos rfl, hcommands, List.take_succ_cons, List.take_zero, List.append_assoc,
      List.singleton_append, ← hcommands]
    exact hp.commands
  · rw [if_neg Bool.false_ne_true, List.append_nil]
    exact ⟨hp.relayed, hp.commands⟩

theorem Relays.subTaskStep (hp : p.Relays E past) {k : ℕ} {bundle : Except String String}
    {r : Pipeline ε × List InternalEvent} (h : p.subTaskStep k bundle = some r) :
    r.1.Relays E past := by
  unfold Pipeline.subTaskStep at h
  split at h
  · cases h
  · obtain ⟨task, -, rfl⟩ := Option.map_eq_some_iff.mp h
    dsimp only
    split <;> exact ⟨hp.relayed, hp.commands⟩

/-- The command that a step takes from the channel of the task. -/
def takenBy (i : ℕ) (p : Pipeline ε) : Label ε → List OrchestratorCommand
  | .take j true => if j = i then p.commands.take 1 else []
  | _ => []

theorem Relays.next (hp : p.Relays E past) {i : ℕ} {a : Label ε} (h : p.Next E i a p') :
    p'.Relays E (past ++ takenBy i p a) := by
  cases h with
  | given hlabel h =>
    have hnone : takenBy i p a = [] := by
      cases a with
      | take j fromCommands =>
        have hj : j ≠ i := fun hj => hlabel (congrArg some hj)
        cases fromCommands with
        | true => exact if_neg hj
        | false => rfl
      | _ => rfl
    rw [hnone, List.append_nil]
    exact hp.given h
  | moved h =>
    cases h with
    | worker answer h =>
      rw [takenBy, List.append_nil]
      · exact hp.workerStep h
      · exact nofun
    | relay h =>
      rw [takenBy, List.append_nil]
      · exact hp.relayStep h
      · exact nofun
    | take fromCommands h =>
      have htaken : takenBy i p (.take i fromCommands) =
          if fromCommands then p.commands.take 1 else [] := by
        cases fromCommands with
        | true => exact if_pos rfl
        | false => rfl
      rw [htaken]
      exact hp.take h
    | subTask k bundle h =>
      rw [takenBy, List.append_nil]
      · exact hp.subTaskStep h
      · exact nofun
  | worked hlabel db h =>
    subst hlabel
    rw [takenBy, List.append_nil]
    · exact ⟨hp.relayed, hp.commands⟩
    · exact nofun

end Pipeline

namespace Sys

variable (E) in
/-- The commands that the task of a pipeline takes in a run. -/
def taken (i : ℕ) (s : Sys ε) (as : List (Label ε)) : List OrchestratorCommand :=
  Run.output (step E) (outputAt i (Pipeline.takenBy i)) s as

/-- In every run, the messages of the stream that a task has taken, and behind them those that wait
for it, are those the relay has made of the worker's events, in order, each once and none left out.
So they begin what the server has sent, stream after stream, in the frames the worker has read, and
they are all of it once the relay has caught up. -/
theorem inbound_in_order {cfg : AppConfig} {dir : ConfigDir} {db : Storage} {as : List (Label ε)}
    {s : Sys ε} (h : Run.after (step E) (start ε cfg dir db) as = some s) {i : ℕ} {p : Pipeline ε}
    (hp : s.pipelines[i]? = some p) :
    (taken E i (start ε cfg dir db) as ++ p.commands).filter OrchestratorCommand.fromStream =
        (p.worker.events.take p.relayed).filterMap (p.inbound E) ∧
      ∀ (codec : StreamWorker.StreamCodec) (ids : List String) (actions : List StreamWorker.Action)
        (t : StreamWorker.Streaming),
        Run.after (StreamWorker.Streaming.step codec) (.start ids) actions = some t →
        t.worker = p.worker →
        (taken E i (start ε cfg dir db) as ++ p.commands).filter OrchestratorCommand.fromStream <+:
          (t.links.flatMap fun l => (l.responses codec).flatMap
            StreamWorker.dispatchIncoming).filterMap (p.inbound E) ∧
        (p.relayed = p.worker.events.length →
          (taken E i (start ε cfg dir db) as ++ p.commands).filter OrchestratorCommand.fromStream =
            (t.links.flatMap fun l => (l.responses codec).flatMap
              StreamWorker.dispatchIncoming).filterMap (p.inbound E)) := by
  have hrelays : p.Relays E (taken E i (start ε cfg dir db) as) :=
    pipeline_invariant _ (J := fun past p => p.Relays E past) (fun _ => Pipeline.Launched.relays)
      (fun _ _ _ _ hp hnext => hp.next hnext) h hp
  refine ⟨hrelays.commands, fun codec ids actions t ht hworker => ?_⟩
  have htold := (StreamWorker.Streaming.delivered_in_order ht).1
  rw [← htold, hworker, StreamWorker.Worker.told, Pipeline.filterMap_inbound, hrelays.commands]
  refine ⟨(List.take_prefix ..).filterMap _, fun hcaught => ?_⟩
  rw [Pipeline.passedOn, hcaught, List.take_length]

/-- A codec that writes nothing, and reads one byte as a message of Alice. -/
def letterCodec : StreamWorker.StreamCodec where
  encode _ := []
  decode message := if message = [7] then
      some ⟨some (.message ⟨some (.messageId "m1"), some "alice", 1, Utf8.encode "hi", none⟩), none⟩
    else none

/-- The stream of the first pipeline opens, and the message comes in two chunks. -/
def letterRun : List StreamWorker.Action :=
  [.worker (.polled .empty) "" 0, .worker (.invalidated none) "" 0,
    .worker (.openEnded .opened) "r0" 0, .worker (.sendEnded true) "r1" 5, .pump (.chunk [0, 0, 0]),
    .pump (.chunk [0, 1, 7]), .worker (.incoming (some (letterCodec.decode [7]))) "" 0]

/-- The whole client, in the same case. -/
def hearsLetter : List (Label Unit) := registers ++ connects ++ receives "alice" "m1" "hi"

theorem inbound_in_order_fresh : ∃ s p t, Run.after (step .decrypting) fresh hearsLetter = some s ∧
    s.pipelines[0]? = some p ∧
    Run.after (StreamWorker.Streaming.step letterCodec) (.start []) letterRun = some t ∧
    (taken .decrypting 0 fresh hearsLetter).length = 1 ∧
    (taken .decrypting 0 fresh hearsLetter ++ p.commands).filter OrchestratorCommand.fromStream =
      (t.links.flatMap fun l => (l.responses letterCodec).flatMap
        StreamWorker.dispatchIncoming).filterMap (p.inbound .decrypting) := by
  obtain ⟨p, hp⟩ : ∃ p, ((Run.after (step .decrypting) fresh hearsLetter).bind fun s =>
      s.pipelines[0]?) = some p := Option.isSome_iff_exists.mp (by decide +kernel)
  obtain ⟨t, ht⟩ : ∃ t,
      Run.after (StreamWorker.Streaming.step letterCodec) (.start []) letterRun = some t :=
    Option.isSome_iff_exists.mp (by decide +kernel)
  have hworkers : (Run.after (StreamWorker.Streaming.step letterCodec) (.start []) letterRun).map
      (fun t => t.worker) = ((Run.after (step .decrypting) fresh hearsLetter).bind fun s =>
        s.pipelines[0]?).map fun p => p.worker := by decide +kernel
  have hcaught : ((Run.after (step .decrypting) fresh hearsLetter).bind fun s =>
      s.pipelines[0]?).map (fun p => decide (p.relayed = p.worker.events.length)) = some true := by
    decide +kernel
  rw [ht, hp] at hworkers
  rw [hp] at hcaught
  obtain ⟨s, hs, hp⟩ := Option.bind_eq_some_iff.mp hp
  obtain ⟨-, hall⟩ := inbound_in_order hs hp
  refine ⟨s, p, t, hs, hp, ht, by decide +kernel, ?_⟩
  exact (hall letterCodec [] letterRun t ht (Option.some.inj hworkers)).2
    (of_decide_eq_true (Option.some.inj hcaught))

end Sys

import ConstructTui.App.Runs
import ConstructTui.Lib.Fifo
import ConstructTui.Orchestrator.Effects

/-!
# The two channels of an orchestrator task

A task takes commands from one channel and events from another. The app and the relay put them in,
the task puts events in for itself, and nothing but the task takes any out.

## Main definitions

* `Pipeline.Tended`: a pipeline that the app may have given inputs, or told of a deletion.
* `Sys.commandsAt`, `Sys.eventsAt`: what waits in the channels of a task.
* `Label.takesAt`: the steps that take from one of them.
* `Sys.Orderly`: the tasks only add to their own channels.
* `Sys.Held`: the app holds the channels of a pipeline that is there.

## Main results

* `Sys.tended_of_takes`: what an input does to the pipelines.
* `Sys.fifo_commandsAt`, `Sys.fifo_eventsAt`: both channels are first in, first out.
* `Sys.Held.next`: every step keeps the handles of the app valid.
-/

variable {ε : Type} {E : AppExternals ε} {ans : Answers ε}

/-! ### What an input does to the pipelines -/

/-- A pipeline that has at most been given inputs and been told of deletions. -/
structure Pipeline.Tended (p p' : Pipeline ε) : Prop where
  program : p'.program = p.program
  config : p'.config = p.config
  world : ∃ selfTx streamTx marks, (∀ o ∈ marks, ∃ contactId, o = .contactDeleted contactId) ∧
    p'.world = { p.world with
      selfTx := selfTx, streamTx := streamTx, log := p.world.log ++ marks }
  events : p.world.selfTx <+: p'.world.selfTx
  commands : p.commands <+: p'.commands

namespace Pipeline

theorem Fed.tended {p p' : Pipeline ε} (h : p.Fed p') : p.Tended p' where
  program := h.program
  config := h.config
  world := by
    obtain ⟨selfTx, streamTx, hw⟩ := h.world
    exact ⟨selfTx, streamTx, [], nofun, by rw [hw, List.append_nil]⟩
  events := h.events
  commands := h.commands

theorem Tended.refl (p : Pipeline ε) : p.Tended p := (Fed.refl p).tended

theorem Tended.trans {p q r : Pipeline ε} (h : p.Tended q) (h' : q.Tended r) : p.Tended r where
  program := h'.program.trans h.program
  config := h'.config.trans h.config
  world := by
    obtain ⟨_, _, marks, hmarks, hw⟩ := h.world
    obtain ⟨selfTx, streamTx, marks', hmarks', hw'⟩ := h'.world
    refine ⟨selfTx, streamTx, marks ++ marks', fun o ho => ?_, by rw [hw', hw, List.append_assoc]⟩
    exact (List.mem_append.mp ho).elim (hmarks o) (hmarks' o)
  events := h.events.trans h'.events
  commands := h.commands.trans h'.commands

/-- A pipeline that is told of a deletion. -/
theorem tended_contactDeleted (p : Pipeline ε) (contactId : String) : p.Tended { p with
    world := { p.world with log := p.world.log ++ [.contactDeleted contactId] } } where
  program := rfl
  config := rfl
  world := ⟨_, _, [.contactDeleted contactId], by simp, rfl⟩
  events := List.prefix_rfl
  commands := List.prefix_rfl

/-- A pipeline that may be told to shut down. -/
theorem tended_shutdown (p : Pipeline ε) : p.Tended { p with
    world := { p.world with streamTx := p.world.streamTx ++ [.shutdown] }
    shutDown := p.shutDown || StreamCmd.shutdown = .shutdown } where
  program := rfl
  config := rfl
  world := ⟨_, _, [], nofun, by rw [List.append_nil]⟩
  events := List.prefix_rfl
  commands := List.prefix_rfl

end Pipeline

/-- Every pipeline is tended, and new ones may have been spawned. -/
def Sys.Tended (E : AppExternals ε) (ans : Answers ε) (s s' : Sys ε) : Prop :=
  ∃ kept fresh : List (Pipeline ε), s'.pipelines = kept ++ fresh ∧
    List.Forall₂ Pipeline.Tended s.pipelines kept ∧
    ∀ p ∈ fresh, ∃ userId deviceId contactIds identitySecret core,
      p = App.newPipeline E ans userId deviceId contactIds identitySecret core s.db

namespace Sys

/-- No pipeline was spawned. -/
theorem Tended.of_forall₂ {s s' : Sys ε}
    (h : List.Forall₂ Pipeline.Tended s.pipelines s'.pipelines) : s.Tended E ans s' :=
  ⟨s'.pipelines, [], (List.append_nil _).symm, h, nofun⟩

theorem forall₂_tended_of_rest {s s' : Sys ε} (h : Rest s s') :
    List.Forall₂ Pipeline.Tended s.pipelines s'.pipelines :=
  h.fed.imp fun _ _ => Pipeline.Fed.tended

theorem forall₂_tended_trans {ps qs rs : List (Pipeline ε)}
    (h : List.Forall₂ Pipeline.Tended ps qs) (h' : List.Forall₂ Pipeline.Tended qs rs) :
    List.Forall₂ Pipeline.Tended ps rs := by
  induction h generalizing rs with
  | nil => exact h'
  | cons hp _ ih =>
    cases h' with
    | cons hq h' => exact .cons (hp.trans hq) (ih h')

variable (ans) in
/-- Deleting rows tells every pipeline at most. -/
theorem tended_deleteRows (userId : String) (s : Sys ε) :
    List.Forall₂ Pipeline.Tended s.pipelines (App.deleteRows ans userId s).2.pipelines := by
  obtain h | ⟨-, -, h⟩ := App.deleteRows_cases ans userId s
  · rw [h]
    exact List.forall₂_same.mpr fun p _ => .refl p
  · rw [h]
    show List.Forall₂ _ s.pipelines (s.pipelines.map _)
    rw [List.forall₂_map_right_iff]
    exact List.forall₂_same.mpr fun p _ => p.tended_contactDeleted userId

theorem tended_change {s s' : Sys ε} {input : Input} (h : Change ans s input s') :
    List.Forall₂ Pipeline.Tended s.pipelines s'.pipelines := by
  obtain ⟨base, hrest, hbase⟩ := h.rest
  have hfed := forall₂_tended_of_rest hrest
  obtain rfl | ⟨contact, rfl⟩ | ⟨peerId, -, rfl⟩ := hbase
  · exact hfed
  · exact hfed
  · exact forall₂_tended_trans (tended_deleteRows ans peerId s.answered) hfed

theorem tended_logout (handle : Option ℕ) (hasRoom : Bool) (s : Sys ε) :
    List.Forall₂ Pipeline.Tended s.pipelines
      (s.streamTrySend handle hasRoom .shutdown).pipelines := by
  cases handle with
  | none => exact List.forall₂_same.mpr fun p _ => .refl p
  | some i =>
    cases hasRoom with
    | false => exact List.forall₂_same.mpr fun p _ => .refl p
    | true =>
      show List.Forall₂ _ s.pipelines (s.pipelines.modify i _)
      generalize s.pipelines = ps
      induction ps generalizing i with
      | nil => cases i <;> exact .nil
      | cons p ps ih =>
        cases i with
        | zero =>
          exact .cons p.tended_shutdown (List.forall₂_same.mpr fun p _ => .refl p)
        | succ i => exact .cons (.refl p) (ih i)

variable (E ans) in
/-- What an input does to the pipelines. -/
theorem tended_handle (s : Sys ε) (input : Input) : s.Tended E ans (App.handle E ans s input) := by
  cases App.handle_move E ans s input with
  | started _ h =>
    obtain ⟨userId, deviceId, contactIds, identitySecret, core, hp⟩ := h.pipelines
    refine ⟨s.pipelines, _, hp, List.forall₂_same.mpr fun p _ => .refl p, fun p hmem => ?_⟩
    exact ⟨userId, deviceId, contactIds, identitySecret, core, List.mem_singleton.mp hmem⟩
  | loggedOut _ h =>
    refine .of_forall₂ ?_
    rw [h.pipelines]
    exact tended_logout _ _ s
  | changed _ _ h => exact .of_forall₂ (tended_change h)

end Sys

/-! ### The channels -/

namespace OrchestratorTask

variable {X : Externals ε} {C : TaskConfig}

/-- What the task has put in its own channel is still there. -/
def Fills (w w' : TaskWorld ε) : Prop := w.selfTx <+: w'.selfTx

theorem fills_of_driverEffect {w w' : TaskWorld ε} (h : DriverEffect w w') : Fills w w' := by
  cases h with
  | effect h =>
    cases h with
    | tables _ _ _ _ _ _ _ _ hself => exact hself
    | _ => exact List.prefix_rfl
  | _ => exact List.prefix_rfl

theorem fills_of_storeEffect {w w' : TaskWorld ε} (h : StoreEffect w w') : Fills w w' := by
  cases h <;> exact List.prefix_rfl

theorem storeAndNotify_fills (contactId messageId text : String) :
    (storeAndNotify X contactId messageId text).Keeps Fills :=
  (storeAndNotify_keeps _ _ _).mono fun _ _ => fills_of_storeEffect

theorem handleRx_fills (event : IncomingEvent) : (handleRx X C event).Keeps Fills :=
  handleRx_closed (Prog.closed_keeps Fills) (fun _ _ h => h.mono fun _ _ => fills_of_driverEffect)
    storeAndNotify_fills event

theorem handleCommand_fills (cmd : OrchestratorCommand) : (handleCommand X C cmd).Keeps Fills :=
  handleCommand_closed (Prog.closed_keeps Fills)
    (fun _ _ h => h.mono fun _ _ => fills_of_driverEffect) storeAndNotify_fills
    (fun _ => .update fun _ => List.prefix_rfl)
    (fun _ _ => (note_storeKeeps _ _).mono fun _ _ => fills_of_storeEffect)
    (fun _ => (persist_storeKeeps _).mono fun _ _ => fills_of_storeEffect) cmd

end OrchestratorTask

/-- The step takes a command, or an event, from the channel of the task of a pipeline. -/
def Label.takesAt (i : ℕ) (fromCommands : Bool) : Label ε → Bool
  | .take j b => j = i && b = fromCommands
  | _ => false

namespace Pipeline

/-- What a move of a pipeline by itself does to its channels. -/
structure Serves (p p' : Pipeline ε) (fromCommands : Option Bool) : Prop where
  program : p.program.Keeps OrchestratorTask.Fills → p'.program.Keeps OrchestratorTask.Fills
  commands : p.commands.drop (if fromCommands = some true then 1 else 0) <+: p'.commands
  events : p.world.selfTx.drop (if fromCommands = some false then 1 else 0) <+: p'.world.selfTx

theorem serves_workerStep {p p' : Pipeline ε} {answer : StreamWorker.Answer}
    (h : p.workerStep answer = some p') : p.Serves p' none := by
  unfold workerStep at h
  split at h
  · split at h
    · obtain rfl := Option.some.inj h
      exact ⟨id, List.prefix_rfl, List.prefix_rfl⟩
    · cases h
  · cases h

theorem serves_relayEvent (p : Pipeline ε) (event : StreamEvent) :
    p.Serves (relayEvent E p event).1 none := by
  cases event with
  | message envelope streamCursor =>
    unfold relayEvent
    dsimp only
    split
    · exact ⟨id, List.prefix_append _ _, List.prefix_rfl⟩
    · exact ⟨id, List.prefix_rfl, List.prefix_rfl⟩
  | ack messageId streamCursor =>
    have hnote : ((CursorTracker.note messageId streamCursor).run p.world).2.selfTx =
        p.world.selfTx := by
      unfold CursorTracker.note
      split <;> rfl
    refine ⟨id, List.prefix_rfl, ?_⟩
    show p.world.selfTx <+: ((CursorTracker.note messageId streamCursor).run p.world).2.selfTx ++ _
    rw [hnote]
    exact List.prefix_append _ _
  | connected => exact ⟨id, List.prefix_rfl, List.prefix_append _ _⟩
  | _ => exact ⟨id, List.prefix_rfl, List.prefix_rfl⟩

theorem serves_relayStep {p : Pipeline ε} {r : Pipeline ε × List InternalEvent}
    (h : p.relayStep E = some r) : p.Serves r.1 none := by
  obtain ⟨event, -, rfl⟩ := Option.map_eq_some_iff.mp h
  have hserves := serves_relayEvent (E := E) { p with relayed := p.relayed + 1 } event
  exact ⟨hserves.program, hserves.commands, hserves.events⟩

theorem serves_take {p p' : Pipeline ε} {fromCommands : Bool}
    (h : p.take E fromCommands = some p') : p.Serves p' (some fromCommands) := by
  obtain ⟨-, ⟨rfl, cmd, commands, hcommands, rfl⟩ | ⟨rfl, event, events, hevents, rfl⟩⟩ :=
    take_cases h
  · refine ⟨fun _ => OrchestratorTask.handleCommand_fills cmd, ?_, List.prefix_rfl⟩
    rw [hcommands]
    exact List.prefix_rfl
  · refine ⟨fun _ => OrchestratorTask.handleRx_fills event, List.prefix_rfl, ?_⟩
    rw [hevents]
    exact List.prefix_rfl

theorem serves_subTaskStep {p : Pipeline ε} {k : ℕ} {bundle : Except String String}
    {r : Pipeline ε × List InternalEvent} (h : p.subTaskStep k bundle = some r) :
    p.Serves r.1 none := by
  unfold subTaskStep at h
  split at h
  · cases h
  · obtain ⟨task, -, rfl⟩ := Option.map_eq_some_iff.mp h
    cases task with
    | fetchBundle userId =>
      cases bundle with
      | ok bundleJson => exact ⟨id, List.prefix_rfl, List.prefix_append _ _⟩
      | error e => exact ⟨id, List.prefix_rfl, List.prefix_rfl⟩
    | _ => exact ⟨id, List.prefix_rfl, List.prefix_append _ _⟩

end Pipeline

namespace Sys

/-- The commands that wait for the task of a pipeline. -/
def commandsAt (i : ℕ) (s : Sys ε) : List OrchestratorCommand :=
  ((s.pipelines[i]?).map Pipeline.commands).getD []

/-- The events that wait for it. -/
def eventsAt (i : ℕ) (s : Sys ε) : List IncomingEvent :=
  ((s.pipelines[i]?).map fun p => p.world.selfTx).getD []

/-- The tasks only add to their own channels. -/
def Orderly (s : Sys ε) : Prop := ∀ p ∈ s.pipelines, p.program.Keeps OrchestratorTask.Fills

/-- What a step does to the channels, when it takes from the one it says. -/
structure Serves (s s' : Sys ε) (taken : ℕ → Bool → ℕ) : Prop where
  orderly : s.Orderly → s'.Orderly
  commands : ∀ i, (s.commandsAt i).drop (taken i true) <+: s'.commandsAt i
  events : ∀ i, (s.eventsAt i).drop (taken i false) <+: s'.eventsAt i

/-- A pipeline that is tended is still there. -/
theorem Tended.getElem? {s s' : Sys ε} (h : s.Tended E ans s') {i : ℕ} {p : Pipeline ε}
    (hp : s.pipelines[i]? = some p) : ∃ p', s'.pipelines[i]? = some p' ∧ p.Tended p' := by
  obtain ⟨kept, fresh, heq, hkept, -⟩ := h
  obtain ⟨hi, rfl⟩ := List.getElem?_eq_some_iff.mp hp
  have hi' : i < kept.length := hkept.length_eq ▸ hi
  refine ⟨kept[i], ?_, hkept.get hi hi'⟩
  rw [heq, List.getElem?_append_left hi', List.getElem?_eq_getElem hi']

/-- No pipeline that is tended has another program, and a new one has nothing to do. -/
theorem Tended.forall_program {s s' : Sys ε} (h : s.Tended E ans s')
    {P : Prog (TaskWorld ε) Unit → Prop} (hpure : P (pure ()))
    (hs : ∀ p ∈ s.pipelines, P p.program) : ∀ p ∈ s'.pipelines, P p.program := by
  obtain ⟨kept, fresh, hp, hkept, hfresh⟩ := h
  intro p hmem
  rw [hp] at hmem
  obtain hmem | hmem := List.mem_append.mp hmem
  · obtain ⟨j, hj, rfl⟩ := List.mem_iff_getElem.mp hmem
    have hj' : j < s.pipelines.length := hkept.length_eq ▸ hj
    have htended : s.pipelines[j].Tended kept[j] := hkept.get hj' hj
    rw [htended.program]
    exact hs _ (List.getElem_mem hj')
  · obtain ⟨userId, deviceId, contactIds, identitySecret, core, rfl⟩ := hfresh p hmem
    exact hpure

/-- A step that tends the pipelines takes nothing. -/
theorem Tended.serves {s s' : Sys ε} (h : s.Tended E ans s') : s.Serves s' fun _ _ => 0 := by
  refine ⟨h.forall_program (.pure ()), fun i => ?_, fun i => ?_⟩
  · cases hp : s.pipelines[i]? with
    | none => simp [commandsAt, hp]
    | some p =>
      obtain ⟨p', hp', htended⟩ := h.getElem? hp
      simp [commandsAt, hp, hp', htended.commands]
  · cases hp : s.pipelines[i]? with
    | none => simp [eventsAt, hp]
    | some p =>
      obtain ⟨p', hp', htended⟩ := h.getElem? hp
      simp [eventsAt, hp, hp', htended.events]

/-- Only one pipeline moves. -/
theorem serves_set {s s' : Sys ε} {j : ℕ} {p p' : Pipeline ε} {fromCommands : Option Bool}
    (hp : s.pipelines[j]? = some p) (hset : s'.pipelines = s.pipelines.set j p')
    (h : p.Serves p' fromCommands) :
    s.Serves s' fun i b => if i = j ∧ fromCommands = some b then 1 else 0 := by
  obtain ⟨hj, rfl⟩ := List.getElem?_eq_some_iff.mp hp
  refine ⟨fun hs q hmem => ?_, fun i => ?_, fun i => ?_⟩
  · rw [hset] at hmem
    obtain hmem | rfl := List.mem_or_eq_of_mem_set hmem
    · exact hs q hmem
    · exact h.program (hs _ (List.getElem_mem hj))
  · by_cases hij : i = j
    · subst hij
      simpa [commandsAt, hset, hj] using h.commands
    · simp [commandsAt, hset, hij, Ne.symm hij]
  · by_cases hij : i = j
    · subst hij
      simpa [eventsAt, hset, hj] using h.events
    · simp [eventsAt, hset, hij, Ne.symm hij]

theorem Serves.congr {s s' : Sys ε} {taken taken' : ℕ → Bool → ℕ} (h : s.Serves s' taken)
    (heq : ∀ i b, taken' i b = taken i b) : s.Serves s' taken' := by
  obtain rfl : taken' = taken := funext fun i => funext fun b => heq i b
  exact h

theorem serves_of_eq {s s' : Sys ε} (h : s'.pipelines = s.pipelines) :
    s.Serves s' fun _ _ => 0 := by
  refine ⟨fun hs => ?_, fun i => ?_, fun i => ?_⟩
  · rwa [Orderly, h]
  · rw [commandsAt, commandsAt, h]
    exact List.prefix_rfl
  · rw [eventsAt, eventsAt, h]
    exact List.prefix_rfl

/-- A step of the task's own program takes nothing. -/
theorem serves_orchestratorStep {s s' : Sys ε} {i : ℕ} {p : Pipeline ε} (hs : s.Orderly)
    (hp : s.pipelines[i]? = some p) (h : s.orchestratorStep i p = some s') :
    s.Serves s' fun _ _ => 0 := by
  obtain ⟨⟨program, world⟩, hstep, rfl⟩ := Option.map_eq_some_iff.mp h
  obtain ⟨hfills, hprogram⟩ := (hs p (List.mem_of_getElem? hp)).step hstep
  have hserves : p.Serves { p with program := program, world := { world with ui := [] } } none :=
    ⟨fun _ => hprogram, List.prefix_rfl, hfills⟩
  exact (serves_set hp rfl hserves).congr fun _ _ => by simp

/-- What a step does to the channels. -/
theorem step_serves {s s' : Sys ε} {a : Label ε} (hs : s.Orderly) (h : step E s a = some s') :
    s.Serves s' fun i b => [a].countP (Label.takesAt i b) := by
  have hnone (ha : ∀ j b, a ≠ .take j b) (i : ℕ) (b : Bool) :
      [a].countP (Label.takesAt i b) = 0 := by
    cases a with
    | take j b => exact absurd rfl (ha j b)
    | _ => rfl
  have hmoves {i : ℕ} {p p' : Pipeline ε} {events : List InternalEvent} {b : Option Bool}
      (hp : s.pipelines[i]? = some p) (hserves : p.Serves p' b)
      (h' : s' = s.movePipeline i p' events) :
      s.Serves s' fun j c => if j = i ∧ b = some c then 1 else 0 := by
    rw [h']
    exact serves_set hp rfl hserves
  cases step_kind h with
  | input ans input queue ha hqueue h' =>
    have htended := (tended_handle E ans { s with queue := queue } input).serves
    rw [← h'] at htended
    refine Serves.congr ⟨htended.orderly, htended.commands, htended.events⟩ (hnone ?_)
    rintro j b rfl
    cases ha
  | startup ha hlabel h' =>
    refine (serves_of_eq h'.pipelines).congr (hnone ?_)
    rintro j b rfl
    cases hlabel
  | behind ha hlabel h' =>
    refine (serves_of_eq h'.pipelines).congr (hnone ?_)
    rintro j b rfl
    cases hlabel
  | pipeline ha i hp hmove h' =>
    cases hmove with
    | worker answer hmove =>
      refine (hmoves hp (Pipeline.serves_workerStep hmove) h').congr ?_
      simpa using hnone nofun
    | relay hmove =>
      refine (hmoves hp (Pipeline.serves_relayStep hmove) h').congr ?_
      simpa using hnone nofun
    | subTask k bundle hmove =>
      refine (hmoves hp (Pipeline.serves_subTaskStep hmove) h').congr ?_
      simpa using hnone nofun
    | take fromCommands hmove =>
      refine (hmoves hp (Pipeline.serves_take hmove) h').congr fun j b => ?_
      rw [List.countP_singleton]
      simp [Label.takesAt, @eq_comm _ i j]
  | orchestrator ha i hlabel hp h' =>
    refine (serves_orchestratorStep hs hp h').congr (hnone ?_)
    rintro j b rfl
    cases hlabel

/-- In all runs the commands of a task are taken in the order in which they were sent. -/
theorem fifo_commandsAt (E : AppExternals ε) (i : ℕ) :
    Run.Fifo (step E) Orderly (commandsAt i) (Label.takesAt i true) where
  keeps _ _ _ hs h := (step_serves hs h).orderly hs
  drops _ _ _ hs h := (step_serves hs h).commands i

/-- So are its events. -/
theorem fifo_eventsAt (E : AppExternals ε) (i : ℕ) :
    Run.Fifo (step E) Orderly (eventsAt i) (Label.takesAt i false) where
  keeps _ _ _ hs h := (step_serves hs h).orderly hs
  drops _ _ _ hs h := (step_serves hs h).events i

/-! ### The pipeline of the app -/

/-- The app holds the channels of one pipeline, which is there, and the database with them. -/
def Held (s : Sys ε) : Prop :=
  ∃ handle : Option ℕ, s.app.handles = (handle, handle, handle.isSome) ∧
    ∀ i, handle = some i → i < s.pipelines.length

theorem Held.congr {s s' : Sys ε} (hs : s.Held) (hhandles : s'.app.handles = s.app.handles)
    (hlength : s.pipelines.length ≤ s'.pipelines.length) : s'.Held := by
  obtain ⟨handle, hhandle, hlt⟩ := hs
  exact ⟨handle, hhandles.trans hhandle, fun i hi => (hlt i hi).trans_le hlength⟩

theorem Held.orchHandle {s : Sys ε} (hs : s.Held) {i : ℕ} (h : s.app.orchHandle = some i) :
    i < s.pipelines.length ∧ s.app.readStorage = true := by
  obtain ⟨handle, hhandle, hlt⟩ := hs
  have horch : s.app.orchHandle = handle := congrArg (fun t => t.2.1) hhandle
  have hread : s.app.readStorage = handle.isSome := congrArg (fun t => t.2.2) hhandle
  obtain rfl : handle = some i := horch.symm.trans h
  exact ⟨hlt i rfl, hread⟩

theorem Tended.length_le {s s' : Sys ε} (h : s.Tended E ans s') :
    s.pipelines.length ≤ s'.pipelines.length := by
  obtain ⟨kept, fresh, hp, hkept, -⟩ := h
  rw [hp, List.length_append, hkept.length_eq]
  exact Nat.le_add_right _ _

theorem handles_change {s s' : Sys ε} {input : Input} (h : Change ans s input s') :
    s'.app.handles = s.app.handles := by
  obtain ⟨base, hrest, rfl | ⟨contact, rfl⟩ | ⟨peerId, -, rfl⟩⟩ := h.rest
  · exact hrest.handles
  · exact hrest.handles
  · exact hrest.handles.trans (App.handles_deleteRows ans peerId s.answered)

theorem Held.handle {s : Sys ε} (hs : s.Held) (input : Input) :
    (App.handle E ans s input).Held := by
  have hlength := (tended_handle E ans s input).length_le
  cases App.handle_move E ans s input with
  | started _ h =>
    refine ⟨some s.pipelines.length, h.handles, ?_⟩
    rintro i ⟨⟩
    obtain ⟨_, _, _, _, _, hp⟩ := h.pipelines
    rw [hp, List.length_append]
    exact Nat.lt_succ_self _
  | loggedOut _ h => exact ⟨none, h.handles, nofun⟩
  | changed _ _ h => exact hs.congr (handles_change h) hlength

theorem Held.next {s s' : Sys ε} {a : Label ε} (hs : s.Held) (h : step E s a = some s') :
    s'.Held := by
  have hset {i : ℕ} {p' : Pipeline ε} : s.pipelines.length ≤ (s.pipelines.set i p').length :=
    List.length_set.ge
  cases step_kind h with
  | input ans input queue ha hqueue h' =>
    rw [h']
    exact Held.handle (s := { s with queue := queue }) hs input
  | startup ha hlabel h' => exact hs.congr h'.handles (congrArg List.length h'.pipelines).ge
  | behind ha hlabel h' =>
    exact hs.congr (congrArg App.handles h'.app) (congrArg List.length h'.pipelines).ge
  | pipeline ha i hp hmove h' => exact h' ▸ hs.congr rfl hset
  | orchestrator ha i hlabel hp h' =>
    obtain ⟨_, -, rfl⟩ := Option.map_eq_some_iff.mp h'
    exact hs.congr rfl hset

theorem held_start (cfg : AppConfig) (dir : ConfigDir) (db : Storage) :
    (start ε cfg dir db).Held := ⟨none, rfl, nofun⟩

theorem orderly_start (cfg : AppConfig) (dir : ConfigDir) (db : Storage) :
    (start ε cfg dir db).Orderly := nofun

/-- A step keeps both. -/
theorem orderly_held_next {s s' : Sys ε} {a : Label ε} (hs : s.Orderly ∧ s.Held)
    (h : step E s a = some s') : s'.Orderly ∧ s'.Held :=
  ⟨(step_serves hs.1 h).orderly hs.1, hs.2.next h⟩

/-- So they hold in every state that a run comes to. -/
theorem orderly_held_after {cfg : AppConfig} {dir : ConfigDir} {db : Storage} {as : List (Label ε)}
    {s : Sys ε} (h : Run.after (step E) (start ε cfg dir db) as = some s) : s.Orderly ∧ s.Held :=
  Run.invariant (fun _ _ _ => orderly_held_next) ⟨orderly_start cfg dir db, held_start cfg dir db⟩ h

end Sys

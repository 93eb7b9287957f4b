import ConstructTui.App.Inputs
import ConstructTui.Lib.Run

/-!
# Runs of the client

A step of the client is an input of the app, which makes one of the moves, or it happens beside the
app and leaves its conversations and its wiring alone.

## Main definitions

* `Sys.Takes`: the input that a step gives the app.
* `Sys.Kind`, `Sys.Behind`, `Pipeline.Moves`: the kinds of steps.
* `Pipeline.Aside`: a pipeline whose task does nothing.
* `Sys.Aside`: a step beside the app.

## Main results

* `Sys.step_kind`, `Sys.step_cases`.
-/

variable {ε : Type} {E : AppExternals ε} {ans : Answers ε}

/-- The label lets the app take an input, a key or the first event of the queue. -/
inductive Sys.Takes (s : Sys ε) : Label ε → Answers ε → Input → Prop
  | key (key : KeyEvent) (ans : Answers ε) : s.Takes (.key key ans) ans (.key key)
  | event {q : Queued} {queue : List Queued} (ans : Answers ε) (h : s.queue = q :: queue) :
      s.Takes (.internal ans) ans (.event q.event q.gone)

theorem Sys.Takes.unique {s : Sys ε} {a : Label ε} {ans ans' : Answers ε} {input input' : Input}
    (h : s.Takes a ans input) (h' : s.Takes a ans' input') : ans = ans' ∧ input = input' := by
  cases h with
  | key => cases h'; exact ⟨rfl, rfl⟩
  | event _ hq =>
    cases h' with
    | event _ hq' =>
      obtain ⟨rfl, rfl⟩ : _ ∧ _ := List.cons.inj (hq.symm.trans hq')
      exact ⟨rfl, rfl⟩

/-- The pipeline that moves by itself with the label. -/
def Label.pipeline : Label ε → Option ℕ
  | .worker i _ | .relay i | .take i _ | .orchestrator i | .subTask i _ _ => some i
  | _ => none

/-- The app changes only at the start, by a key or by an event. -/
def Label.ofApp : Label ε → Bool
  | .startup _ | .key _ _ | .internal _ => true
  | _ => false

/-- What a pipeline tells the app by itself: how its stream is, or an error. -/
inductive InternalEvent.Notice : InternalEvent → Prop
  | error (e : String) : Notice (.bridge (.error e))
  | streamStatus (connected : Bool) : Notice (.bridge (.streamStatus connected))
  | streamReconnecting (attempt delayMs : ℕ) :
      Notice (.bridge (.streamReconnecting attempt delayMs))
  | streamAuthRequired : Notice .streamAuthRequired

namespace Pipeline

/-- What a pipeline leaves alone until its task takes something. -/
structure Aside (p p' : Pipeline ε) : Prop where
  program : p'.program = p.program
  shutDown : p'.shutDown = p.shutDown
  established : p'.world.sessionEstablishedAtMs = p.world.sessionEstablishedAtMs
  log : p'.world.log = p.world.log
  ui : p'.world.ui = p.world.ui

theorem aside_workerStep {p p' : Pipeline ε} {answer : StreamWorker.Answer}
    (h : p.workerStep answer = some p') : p.Aside p' := by
  unfold workerStep at h
  split at h
  · split at h
    · exact Option.some.inj h ▸ ⟨rfl, rfl, rfl, rfl, rfl⟩
    · cases h
  · cases h

theorem aside_relayEvent (E : AppExternals ε) (p : Pipeline ε) (event : StreamEvent) :
    p.Aside (relayEvent E p event).1 := by
  cases event with
  | message envelope streamCursor =>
    unfold relayEvent
    dsimp only
    split <;> exact ⟨rfl, rfl, rfl, rfl, rfl⟩
  | ack messageId streamCursor =>
    -- the tracker of the cursors touches nothing but the cursors and the database
    have hnote : p.Aside { p with
        world := ((CursorTracker.note messageId streamCursor).run p.world).2 } := by
      unfold CursorTracker.note
      split <;> exact ⟨rfl, rfl, rfl, rfl, rfl⟩
    exact ⟨rfl, rfl, hnote.established, hnote.log, hnote.ui⟩
  | _ => exact ⟨rfl, rfl, rfl, rfl, rfl⟩

theorem aside_relayStep {p : Pipeline ε} {r : Pipeline ε × List InternalEvent}
    (h : p.relayStep E = some r) : p.Aside r.1 := by
  obtain ⟨event, -, rfl⟩ := Option.map_eq_some_iff.mp h
  have haside := aside_relayEvent E { p with relayed := p.relayed + 1 } event
  exact ⟨haside.program, haside.shutDown, haside.established, haside.log, haside.ui⟩

theorem aside_subTaskStep {p : Pipeline ε} {k : ℕ} {bundle : Except String String}
    {r : Pipeline ε × List InternalEvent} (h : p.subTaskStep k bundle = some r) : p.Aside r.1 := by
  unfold subTaskStep at h
  split at h
  · cases h
  · obtain ⟨task, -, rfl⟩ := Option.map_eq_some_iff.mp h
    cases task <;> cases bundle <;> exact ⟨rfl, rfl, rfl, rfl, rfl⟩

theorem notice_relayStep {p : Pipeline ε} {r : Pipeline ε × List InternalEvent}
    (h : p.relayStep E = some r) : ∀ e ∈ r.2, e.Notice := by
  obtain ⟨event, -, rfl⟩ := Option.map_eq_some_iff.mp h
  cases event with
  | message envelope streamCursor =>
    unfold relayEvent
    dsimp only
    split <;> exact List.forall_mem_nil _
  | ack | heartbeat => exact List.forall_mem_nil _
  | streamError => exact List.forall_mem_singleton.mpr (.error _)
  | connected => exact List.forall_mem_singleton.mpr (.streamStatus true)
  | disconnected => exact List.forall_mem_singleton.mpr (.streamStatus false)
  | reconnecting => exact List.forall_mem_singleton.mpr (.streamReconnecting _ _)
  | authRequired => exact List.forall_mem_singleton.mpr .streamAuthRequired

theorem notice_subTaskStep {p : Pipeline ε} {k : ℕ} {bundle : Except String String}
    {r : Pipeline ε × List InternalEvent} (h : p.subTaskStep k bundle = some r) :
    ∀ e ∈ r.2, e.Notice := by
  unfold subTaskStep at h
  split at h
  · cases h
  · obtain ⟨task, -, rfl⟩ := Option.map_eq_some_iff.mp h
    cases task with
    | fetchBundle userId =>
      cases bundle with
      | ok bundleJson => exact List.forall_mem_nil _
      | error e => exact List.forall_mem_singleton.mpr (.error _)
    | _ => exact List.forall_mem_nil _

/-- A task that takes has nothing under way, and takes the first command or the first event. -/
theorem take_cases {p p' : Pipeline ε} {fromCommands : Bool} (h : p.take E fromCommands = some p') :
    p.program = .ret () ∧
      ((fromCommands = true ∧ ∃ cmd commands, p.commands = cmd :: commands ∧
          p' = { p with
            program := OrchestratorTask.handleCommand E.core p.config cmd, commands := commands }) ∨
        (fromCommands = false ∧ ∃ event events, p.world.selfTx = event :: events ∧
          p' = { p with
            program := OrchestratorTask.handleRx E.core p.config event
            world := { p.world with selfTx := events } })) := by
  unfold take at h
  split at h
  · exact ⟨‹_›, .inl ⟨rfl, _, _, ‹_›, (Option.some.inj h).symm⟩⟩
  · exact ⟨‹_›, .inr ⟨rfl, _, _, ‹_›, (Option.some.inj h).symm⟩⟩
  · cases h

/-- What a pipeline can do by itself, by which label, and what it tells the app. -/
inductive Moves (E : AppExternals ε) (p : Pipeline ε) (i : ℕ) :
    Label ε → Pipeline ε → List InternalEvent → Prop
  | worker {p' : Pipeline ε} (answer : StreamWorker.Answer) (h : p.workerStep answer = some p') :
      Moves E p i (.worker i answer) p' []
  | relay {r : Pipeline ε × List InternalEvent} (h : p.relayStep E = some r) :
      Moves E p i (.relay i) r.1 r.2
  | take {p' : Pipeline ε} (fromCommands : Bool) (h : p.take E fromCommands = some p') :
      Moves E p i (.take i fromCommands) p' []
  | subTask {r : Pipeline ε × List InternalEvent} (k : ℕ) (bundle : Except String String)
      (h : p.subTaskStep k bundle = some r) : Moves E p i (.subTask i k bundle) r.1 r.2

/-- A pipeline that moves by itself leaves all that alone, or its task takes something. -/
theorem Moves.aside_or_takes {p p' : Pipeline ε} {i : ℕ} {a : Label ε} {events : List InternalEvent}
    (h : p.Moves E i a p' events) :
    p.Aside p' ∨ ∃ b, a = .take i b ∧ p.take E b = some p' ∧ events = [] := by
  cases h with
  | worker answer h => exact .inl (aside_workerStep h)
  | relay h => exact .inl (aside_relayStep h)
  | take fromCommands h => exact .inr ⟨fromCommands, rfl, h, rfl⟩
  | subTask k bundle h => exact .inl (aside_subTaskStep h)

theorem Moves.notice {p p' : Pipeline ε} {i : ℕ} {a : Label ε} {events : List InternalEvent}
    (h : p.Moves E i a p' events) : ∀ e ∈ events, e.Notice := by
  cases h with
  | worker | take => exact List.forall_mem_nil _
  | relay h => exact notice_relayStep h
  | subTask k bundle h => exact notice_subTaskStep h

theorem Moves.shutDown {p p' : Pipeline ε} {i : ℕ} {a : Label ε} {events : List InternalEvent}
    (h : p.Moves E i a p' events) : p'.shutDown = p.shutDown := by
  obtain haside | ⟨b, -, htake, -⟩ := h.aside_or_takes
  · exact haside.shutDown
  · obtain ⟨-, ⟨-, cmd, commands, -, rfl⟩ | ⟨-, event, rest, -, rfl⟩⟩ := take_cases htake
    · rfl
    · rfl

end Pipeline

namespace Sys

/-- A background task moves: the app hears of it later, and it never shows a message. -/
structure Behind (s s' : Sys ε) : Prop where
  app : s'.app = s.app
  opened : s'.opened = s.opened
  db : s'.db = s.db
  pipelines : s'.pipelines = s.pipelines
  queue : ∃ events : List InternalEvent, (∀ event ∈ events, ∀ b, event ≠ .bridge b) ∧
    s'.queue = s.queue ++ events.map fun event => ⟨event, false⟩

/-- The kinds of steps. -/
inductive Kind (E : AppExternals ε) (s : Sys ε) (a : Label ε) (s' : Sys ε) : Prop
  | input (ans : Answers ε) (input : Input) (queue : List Queued) (h : s.Takes a ans input)
      (hqueue : queue = s.queue ∨ ∃ q, s.queue = q :: queue)
      (h' : s' = App.handle E ans { s with queue := queue } input)
  | startup (ha : ∀ ans input, ¬s.Takes a ans input) (hlabel : a.pipeline = none) (h : Still s s')
  | behind (ha : ∀ ans input, ¬s.Takes a ans input) (hlabel : a.pipeline = none) (h : s.Behind s')
  | pipeline (ha : ∀ ans input, ¬s.Takes a ans input) (i : ℕ) {p p' : Pipeline ε}
      {events : List InternalEvent} (hp : s.pipelines[i]? = some p)
      (hmove : p.Moves E i a p' events)
      (h : s' = s.movePipeline i p' events)
  | orchestrator (ha : ∀ ans input, ¬s.Takes a ans input) (i : ℕ) {p : Pipeline ε}
      (hlabel : a = .orchestrator i) (hp : s.pipelines[i]? = some p)
      (h : s.orchestratorStep i p = some s')

theorem Behind.silent {s s' : Sys ε} (happ : s'.app = s.app) (hopened : s'.opened = s.opened)
    (hdb : s'.db = s.db) (hpipelines : s'.pipelines = s.pipelines) (hqueue : s'.queue = s.queue) :
    s.Behind s' :=
  ⟨happ, hopened, hdb, hpipelines, [], by simp, by simpa using hqueue⟩

/-- A task may write the session file first. -/
theorem Behind.dir {s s' : Sys ε} {dir : ConfigDir} (h : Behind { s with dir := dir } s') :
    s.Behind s' := ⟨h.app, h.opened, h.db, h.pipelines, h.queue⟩

theorem behind_enqueue (s : Sys ε) (event : InternalEvent) (h : ∀ b, event ≠ .bridge b) :
    s.Behind (s.enqueue event) := ⟨rfl, rfl, rfl, rfl, [event], by simpa using h, rfl⟩

theorem behind_conclude (s : Sys ε) (k : ℕ) (event : InternalEvent) (h : ∀ b, event ≠ .bridge b) :
    s.Behind (s.conclude k event) := ⟨rfl, rfl, rfl, rfl, [event], by simpa using h, rfl⟩

theorem behind_beginAuthenticate (E : AppExternals ε) (k : ℕ) (session : Session) (reauth : Bool)
    (s : Sys ε) : s.Behind (beginAuthenticate E k session reauth s) := by
  unfold beginAuthenticate
  split
  · exact behind_conclude s k _ (by simp [authFailure])
  · exact .silent rfl rfl rfl rfl rfl

theorem behind_beginRequest (E : AppExternals ε) (k : ℕ) (task : BackgroundTask) (fresh : Session)
    (ans : Answers ε) (s : Sys ε) : s.Behind (beginRequest E k task fresh ans s) := by
  cases task with
  | restoreFromDisk =>
    unfold beginRequest
    dsimp only
    split
    · exact .dir (behind_conclude _ k _ (by simp [authFailure]))
    · exact .dir (behind_conclude _ k _ (by simp [authFailure]))
    · next session _ => exact .dir (behind_beginAuthenticate E k session false _)
  | authenticate session reauth => exact behind_beginAuthenticate E k session reauth s
  | _ => exact .silent rfl rfl rfl rfl rfl

theorem behind_finishRequest (k : ℕ) (r : Running) (result : TaskResult) (ans : Answers ε)
    (s : Sys ε) : s.Behind (finishRequest k r result ans s) := by
  have hrefresh (refreshToken : String) (result : TaskResult) (b : BridgeEvent) :
      refreshEvent refreshToken result ≠ .bridge b := by cases result <;> simp [refreshEvent]
  have hsuccess (userId : String) (session : Session) (pendingSave : Option Session)
      (t : Sys ε) : t.Behind (t.conclude k (authSuccess userId session pendingSave)) :=
    behind_conclude t k _ (by simp [authSuccess])
  have hfailure (reauth : Bool) (e : String) (t : Sys ε) :
      t.Behind (t.conclude k (authFailure reauth e)) :=
    behind_conclude t k _ (by simp [authFailure])
  unfold finishRequest
  split
  · split
    · exact .silent rfl rfl rfl rfl rfl
    · dsimp only
      split
      · exact .dir (hfailure false _ _)
      · exact .dir (hsuccess _ _ _ _)
  · split
    · exact .silent rfl rfl rfl rfl rfl
    · exact hsuccess _ _ _ s
  · split
    · exact .silent rfl rfl rfl rfl rfl
    · exact hsuccess _ _ _ s
  · split
    · exact .silent rfl rfl rfl rfl rfl
    · exact hsuccess _ _ _ s
  · exact behind_conclude s k _ (hrefresh _ _)
  · exact behind_conclude s k _ (hrefresh _ _)
  · exact .silent rfl rfl rfl rfl rfl
  all_goals first
    | exact hfailure _ _ s
    | exact behind_conclude s k _ (by simp)
    | exact .silent rfl rfl rfl rfl rfl

/-- Every step is of one of the kinds. -/
theorem step_kind {s s' : Sys ε} {a : Label ε} (h : step E s a = some s') : Kind E s a s' := by
  have hbeside (ha : ∀ key ans, a ≠ .key key ans) (ha' : ∀ ans, a ≠ .internal ans)
      (ans : Answers ε) (input : Input) : ¬s.Takes a ans input := by
    rintro (⟨key, ans⟩ | ⟨ans, -⟩)
    · exact ha key ans rfl
    · exact ha' ans rfl
  cases stepped h with
  | startup => exact .startup (hbeside (by simp) (by simp)) rfl (App.still_startupCheck _ s)
  | @key key ans => exact .input ans (.key key) s.queue (.key key ans) (.inl rfl) rfl
  | @internal ans q queue _ hqueue =>
    exact .input ans (.event q.event q.gone) queue (.event ans hqueue) (.inr ⟨q, hqueue⟩) rfl
  | tick => exact .behind (hbeside (by simp) (by simp)) rfl (behind_enqueue s _ (by simp))
  | registrationStep =>
    exact .behind (hbeside (by simp) (by simp)) rfl (behind_enqueue s _ (by simp))
  | request =>
    exact .behind (hbeside (by simp) (by simp)) rfl (behind_beginRequest E _ _ _ _ s)
  | finish => exact .behind (hbeside (by simp) (by simp)) rfl (behind_finishRequest _ _ _ _ s)
  | worker hp hp' => exact .pipeline (hbeside (by simp) (by simp)) _ hp (.worker _ hp') rfl
  | relay hp hr => exact .pipeline (hbeside (by simp) (by simp)) _ hp (.relay hr) rfl
  | take hp hp' => exact .pipeline (hbeside (by simp) (by simp)) _ hp (.take _ hp') rfl
  | orchestrator hp hs' => exact .orchestrator (hbeside (by simp) (by simp)) _ rfl hp hs'
  | subTask hp hr => exact .pipeline (hbeside (by simp) (by simp)) _ hp (.subTask _ _ hr) rfl

/-- A step that gives the app an input does what its handler does. -/
theorem step_of_takes {s s' : Sys ε} {a : Label ε} {input : Input} (ha : s.Takes a ans input)
    (h : step E s a = some s') :
    ∃ queue, (queue = s.queue ∨ ∃ q, s.queue = q :: queue) ∧
      s' = App.handle E ans { s with queue := queue } input := by
  cases step_kind h with
  | input ans' input' queue ha' hqueue hs' =>
    obtain ⟨rfl, rfl⟩ := ha.unique ha'
    exact ⟨queue, hqueue, hs'⟩
  | startup hno _ h => exact absurd ha (hno _ _)
  | behind hno _ h => exact absurd ha (hno _ _)
  | pipeline hno i hp hmove h => exact absurd ha (hno _ _)
  | orchestrator hno i hlabel hp h => exact absurd ha (hno _ _)

/-! ### Steps beside the app -/

/-- Every other step leaves the app alone. -/
theorem app_of_beside {s s' : Sys ε} {a : Label ε} (ha : a.ofApp = false)
    (h : step E s a = some s') : s'.app = s.app := by
  cases stepped h with
  | startup | key | internal => cases ha
  | tick | registrationStep | worker | relay | take | subTask => rfl
  | request => exact (behind_beginRequest E _ _ _ _ s).app
  | finish => exact (behind_finishRequest _ _ _ _ s).app
  | orchestrator hp hs' =>
    obtain ⟨⟨program, world⟩, -, rfl⟩ := Option.map_eq_some_iff.mp hs'
    rfl

/-- Replacing a pipeline by one that was shut down if and only if it was. -/
theorem map_shutDown_set {ps : List (Pipeline ε)} {i : ℕ} {p p' : Pipeline ε} (hp : ps[i]? = some p)
    (h : p'.shutDown = p.shutDown) :
    (ps.set i p').map Pipeline.shutDown = ps.map Pipeline.shutDown := by
  obtain ⟨hi, rfl⟩ := List.getElem?_eq_some_iff.mp hp
  have hi' : i < (ps.map Pipeline.shutDown).length := by simpa using hi
  have hget : ps[i].shutDown = (ps.map Pipeline.shutDown)[i] := by simp
  rw [List.map_set, h, hget, List.set_getElem_self hi']

/-- What conversations and wiring depend on is left alone. -/
structure Aside (s s' : Sys ε) : Prop where
  talk : s'.talk = s.talk
  wiring : s'.wiring = s.wiring

/-- A step beside the app leaves its conversations and its wiring alone. -/
theorem step_cases {s s' : Sys ε} {a : Label ε} (h : step E s a = some s') :
    (∃ ans input queue, s.Takes a ans input ∧ Move E ans { s with queue := queue } input s') ∨
      (∀ ans input, ¬s.Takes a ans input) ∧ s.Aside s' := by
  cases step_kind h with
  | input ans input queue ha hqueue h' =>
    exact .inl ⟨ans, input, queue, ha, h' ▸ App.handle_move E ans _ input⟩
  | startup ha _ h => exact .inr ⟨ha, h.talk, h.rest.wiring⟩
  | behind ha _ h =>
    refine .inr ⟨ha, ?_, ?_⟩
    · rw [talk, h.app, h.opened]
      rfl
    · rw [wiring, h.app, h.pipelines]
      rfl
  | pipeline ha i hp hmove h =>
    exact .inr ⟨ha, h ▸ rfl, h ▸ Prod.ext rfl (map_shutDown_set hp hmove.shutDown)⟩
  | orchestrator ha i hlabel hp h =>
    obtain ⟨⟨program, world⟩, -, rfl⟩ := Option.map_eq_some_iff.mp h
    exact .inr ⟨ha, rfl, Prod.ext rfl (map_shutDown_set hp rfl)⟩

/-! ### Concrete runs -/

end Sys

/-- Surroundings in which every message of the stream is decrypted at once. -/
def AppExternals.decrypting : AppExternals Unit :=
  { AppExternals.quiet with
    core := { Externals.quiet with
      handleEvent := fun event _ => (match event with
        | .messageReceived messageId sender data _ _ _ _ _ =>
          [.messageDecrypted sender messageId data]
        | _ => [], ()) }
    codec := { AppExternals.quiet.codec with unpack := fun _ => .ok ⟨1, none, 0⟩ } }

namespace Sys

/-- A client on an empty directory and database that keeps its session in clear. -/
def fresh : Sys Unit := start Unit ⟨"http://localhost", "TLS", true, false⟩ ⟨none, none, 0⟩ .init

/-- The same on a database with two contacts. -/
def acquainted : Sys Unit := { fresh with db :=
  (Storage.init.upsertContact ⟨"alice", "alice", ""⟩).upsertContact ⟨"bob", "bob", ""⟩ }

/-- A client on an empty directory and database that asks for a passphrase. -/
def encrypting : Sys Unit :=
  start Unit ⟨"http://localhost", "TLS", false, false⟩ ⟨none, none, 0⟩ .init

/-- The user presses a key and nothing fails. -/
def presses (c : Char) : Label Unit := .key (.plain (.char c)) .quiet

/-- The user types the passphrase `p`. -/
def typesPassphrase (ans : Answers Unit) : List (Label Unit) :=
  [.key (.plain (.char 'p')) .quiet, .key (.plain .enter) ans]

/-- A user registers without a name, and the chats open. -/
def registers : List (Label Unit) :=
  [.startup .quiet, .key (.plain .enter) .quiet, .request 0 .zeros .quiet,
    .finish 0 (.tokens "me" "access1" "refresh1" 100) .quiet, .internal .quiet]

/-- The first task refreshes the tokens. -/
def refreshes : List (Label Unit) :=
  [.request 0 .zeros .quiet, .finish 0 (.tokens "me" "access2" "refresh2" 200) .quiet,
    .internal .quiet]

/-- The refresh token is rejected, and the device authenticates again with its key. -/
def reauthenticates : List (Label Unit) :=
  [.request 0 .zeros .quiet, .finish 0 (.rejected "expired") .quiet, .internal .quiet,
    .request 0 .zeros .quiet, .finish 0 (.tokens "me" "access2" "refresh2" 200) .quiet,
    .internal .quiet]

/-- The stream of the first pipeline opens. -/
def connects : List (Label Unit) :=
  [.worker 0 (.polled .empty), .worker 0 (.invalidated none), .worker 0 (.openEnded .opened),
    .worker 0 (.sendEnded true), .relay 0, .internal .quiet]

/-- The user opens the conversation with the second contact. -/
def opensSecond : List (Label Unit) := [.key (.plain .down) .quiet, .key (.plain .enter) .quiet]

/-- A message comes in over the stream and is shown. -/
def receives (sender messageId text : String) : List (Label Unit) :=
  let envelope : WireEnvelope :=
    ⟨some (.messageId messageId), some sender, 1, Utf8.encode text, none⟩
  [.worker 0 (.incoming (some (some ⟨some (.message envelope), none⟩))), .relay 0, .take 0 true] ++
    List.replicate 9 (.orchestrator 0) ++ [.internal .quiet]

end Sys

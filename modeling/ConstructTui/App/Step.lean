import ConstructTui.App.Handlers

/-!
# Steps of the client

One step of the whole client: the app takes a key or an event, a background task sends its request
or gets its answer, or a part of a pipeline moves: the worker, the relay, the orchestrator task or
one of its sub-tasks. The label says which, and what the outside answers. A run is any sequence of
labels, so it covers every interleaving.

## Main definitions

* `Label`, `Sys.step`.
* `Sys.beginRequest`, `Sys.finishRequest`: the two halves of a background task.
* `Pipeline.workerStep`, `Pipeline.relayStep`, `Pipeline.take`, `Sys.orchestratorStep`,
  `Pipeline.subTaskStep`: what a pipeline can do by itself.
* `Sys.Stepped`: every step that can be taken, with what it takes for it.

## Main results

* `Sys.stepped`: there are no others.
-/

/-- How the request of a background task ends. -/
inductive TaskResult
  | tokens (userId accessToken refreshToken : String) (expiresAt : ℤ)
  | found (userId : Option String)
  | accepted (userId : String)
  | uploaded
  | rejected (error : String)
  | failed (error : String)
  deriving DecidableEq, Repr

/-- The labels of the client's steps. -/
inductive Label (ε : Type)
  | startup (ans : Answers ε)
  | key (key : KeyEvent) (ans : Answers ε)
  | internal (ans : Answers ε)
  | tick
  | registrationStep (k : ℕ) (reached : RegistrationStep)
  | request (k : ℕ) (fresh : Session) (ans : Answers ε)
  | finish (k : ℕ) (result : TaskResult) (ans : Answers ε)
  | worker (i : ℕ) (answer : StreamWorker.Answer)
  | relay (i : ℕ)
  | take (i : ℕ) (fromCommands : Bool)
  | orchestrator (i : ℕ)
  | subTask (i k : ℕ) (bundle : Except String String)

namespace Sys

variable {ε : Type} (E : AppExternals ε)

/-! ### Background tasks -/

/-- A failed authentication, as the app is told. -/
def authFailure (reauth : Bool) (error : String) : InternalEvent :=
  .auth (.failure (if reauth then "Device re-auth failed: " ++ error else error))

/-- The signing key must decode to 32 bytes. -/
def checkSigningKey (session : Session) : Except String Unit := do
  let key ← E.hexDecode session.signingKeyHex
  if key.length = 32 then return () else throw "signing key must be 32 bytes"

/-- The shared client speaks for a device from here on. -/
def setDeviceId (s : Sys ε) (deviceId : String) : Sys ε :=
  { s with grpc := { s.grpc with deviceId := some deviceId } }

/-- A task waits for its answer. -/
def await (s : Sys ε) (k : ℕ) (session : Option Session) : Sys ε :=
  { s with tasks := s.tasks.modify k fun r => { r with requested := true, session := session } }

/-- A task ends with an event for the app. -/
def conclude (s : Sys ε) (k : ℕ) (event : InternalEvent) : Sys ε :=
  { s with tasks := s.tasks.eraseIdx k }.enqueue event

/-- `authenticate_saved_session`, up to its request. -/
def beginAuthenticate (k : ℕ) (session : Session) (reauth : Bool) (s : Sys ε) : Sys ε :=
  match checkSigningKey E session with
  | .error e => s.conclude k (authFailure reauth e)
  | .ok () => (s.setDeviceId session.deviceId).await k (some session)

/-- What a task does before it waits for the server. `fresh` are the keys it may generate. -/
def beginRequest (k : ℕ) (task : BackgroundTask) (fresh : Session) (ans : Answers ε) (s : Sys ε) :
    Sys ε :=
  match task with
  | .restoreFromDisk =>
    let loaded := if ans.readable then s.dir.loadSession else .error ans.error
    let s := { s with dir := s.dir.sessionPath }
    match loaded with
    | .error e => s.conclude k (authFailure false e)
    | .ok none => s.conclude k (authFailure false "no_session")
    | .ok (some session) => beginAuthenticate E k session false s
  | .authenticate session reauth => beginAuthenticate E k session reauth s
  | .register _ | .link _ => (s.setDeviceId fresh.deviceId).await k (some fresh)
  | .tokenRefresh deviceId _ _ | .tokenRefreshNow deviceId _ | .uploadPreKeys deviceId _ =>
    (s.setDeviceId deviceId).await k none
  | .search _ | .redeem _ _ => s.await k none

/-- The event of a successful authentication. -/
def authSuccess (userId : String) (session : Session) (pendingSave : Option Session) :
    InternalEvent :=
  .auth (.success ⟨userId, session.deviceId, session.accessToken, session, pendingSave⟩)

/-- The event of a token refresh; an empty new refresh token keeps the old one. -/
def refreshEvent (refreshToken : String) : TaskResult → InternalEvent
  | .tokens _ accessToken newRefresh expiresAt => .tokenRefresh
    (.refreshed accessToken (if newRefresh = "" then refreshToken else newRefresh) expiresAt)
  | .rejected e => .tokenRefresh (.failedAuth e)
  | .failed e => .tokenRefresh (.failedTransport e)
  | .found _ | .accepted _ | .uploaded => .tokenRefresh (.failedTransport "decode")

/-- What a task does with its answer. -/
def finishRequest (k : ℕ) (r : Running) (result : TaskResult) (ans : Answers ε) (s : Sys ε) :
    Sys ε :=
  match r.task, result with
  | .restoreFromDisk, .tokens userId accessToken refreshToken expiresAt =>
    match r.session with
    | none => s
    | some session =>
      let updated := session.withTokens accessToken refreshToken expiresAt
      match s.dir.saveFile (.plaintext updated) ans.save with
      | (.error e, dir) => { s with dir := dir }.conclude k (authFailure false e)
      | (.ok (), dir) => { s with dir := dir }.conclude k (authSuccess userId updated none)
  | .authenticate _ _, .tokens userId accessToken refreshToken expiresAt =>
    match r.session with
    | none => s
    | some session =>
      let updated := session.withTokens accessToken refreshToken expiresAt
      s.conclude k (authSuccess userId updated (some updated))
  | .register _, .tokens userId accessToken refreshToken expiresAt
  | .link _, .tokens userId accessToken refreshToken expiresAt =>
    match r.session with
    | none => s
    | some fresh =>
      let session := { fresh.withTokens accessToken refreshToken expiresAt with userId := userId }
      s.conclude k (authSuccess userId session (some session))
  | .tokenRefresh _ refreshToken _, result | .tokenRefreshNow _ refreshToken, result =>
    s.conclude k (refreshEvent refreshToken result)
  | .uploadPreKeys _ _, _ => { s with tasks := s.tasks.eraseIdx k }
  | .search query, .found (some userId) =>
    s.conclude k (.contactSearchResult [⟨userId, query, query⟩])
  | .search _, .found none => s.conclude k (.contactSearchResult [])
  | .redeem _ username, .accepted userId => s.conclude k (.inviteAccepted userId username)
  | .authenticate _ reauth, .failed e | .authenticate _ reauth, .rejected e =>
    s.conclude k (authFailure reauth e)
  | .restoreFromDisk, .failed e | .restoreFromDisk, .rejected e | .register _, .failed e
  | .register _, .rejected e | .link _, .failed e | .link _, .rejected e =>
    s.conclude k (authFailure false e)
  | .search _, .failed e | .search _, .rejected e => s.conclude k (.contactSearchError e)
  | .redeem _ _, .failed e | .redeem _ _, .rejected e =>
    s.conclude k (.contactSearchError ("Invite: " ++ e))
  -- an answer that does not belong to the request
  | _, _ => s

end Sys

/-! ### Pipelines -/

namespace Pipeline

variable {ε : Type} (E : AppExternals ε)

/-- What is left of the command channel once the worker has its answer; the answer must be what
the channel holds. The task keeps a sender, so the channel never closes. -/
def channelAfter (channel : List StreamCmd) : StreamWorker.Answer → Option (List StreamCmd)
  | .polled .empty => if channel.isEmpty then some channel else none
  | .polled .disconnected | .received none _ => none
  | .polled (.command cmd) | .received (some cmd) _ =>
    match channel with
    | [] => none
    | c :: rest => if c = cmd then some rest else none
  | .invalidated _ | .openEnded _ | .sendEnded _ | .ticked _ | .incoming _ | .delayDrawn _
  | .elapsed => some channel

/-- A stream is opened from the watermark in memory. -/
def sinceCommitted (committed : Option String) : StreamWorker.Answer → Bool
  | .invalidated since => since = committed
  | _ => true

def workerStep (p : Pipeline ε) (answer : StreamWorker.Answer) : Option (Pipeline ε) :=
  match channelAfter p.world.streamTx answer, StreamWorker.step p.worker answer with
  | some channel, some worker =>
    if sinceCommitted p.world.committed answer then
      some { p with worker := worker, world := { p.world with streamTx := channel } }
    else none
  | _, _ => none

/-- An event for the pipeline's own task. -/
def send (p : Pipeline ε) (event : IncomingEvent) : Pipeline ε :=
  { p with world := { p.world with selfTx := p.world.selfTx ++ [event] } }

/-- What the relay makes of an event of the worker: a change of the pipeline, and events for the
app. -/
def relayEvent (p : Pipeline ε) : StreamEvent → Pipeline ε × List InternalEvent
  | .message envelope streamCursor =>
    match inboundCommand E.codec p.identitySecret envelope streamCursor with
    | some cmd => ({ p with commands := p.commands ++ [cmd] }, [])
    | none => (p, [])
  | .ack messageId streamCursor =>
    let world := ((CursorTracker.note messageId streamCursor).run p.world).2
    ({ p with world := world }.send (.ackReceived messageId), [])
  | .heartbeat _ _ _ => (p, [])
  | .streamError messageId errorCode errorMessage _ _ _ =>
    let label := if messageId = "" then
        "Stream error " ++ toString errorCode ++ ": " ++ errorMessage
      else "Stream error for " ++ messageId ++ ": " ++ errorMessage
    (p, [.bridge (.error label)])
  | .connected => (p.send .networkReconnected, [.bridge (.streamStatus true)])
  | .disconnected => (p, [.bridge (.streamStatus false)])
  | .reconnecting attempt delayMs => (p, [.bridge (.streamReconnecting attempt.toNat delayMs)])
  | .authRequired => (p, [.streamAuthRequired])

/-- The relay takes the next event of the worker. -/
def relayStep (p : Pipeline ε) : Option (Pipeline ε × List InternalEvent) :=
  (p.worker.events[p.relayed]?).map fun event =>
    relayEvent E { p with relayed := p.relayed + 1 } event

/-- The task, when it has nothing under way, takes a command or an event. -/
def take (p : Pipeline ε) (fromCommands : Bool) : Option (Pipeline ε) :=
  match p.program, fromCommands, p.commands, p.world.selfTx with
  | .ret (), true, cmd :: commands, _ =>
    some { p with
      program := OrchestratorTask.handleCommand E.core p.config cmd, commands := commands }
  | .ret (), false, _, event :: events =>
    some { p with
      program := OrchestratorTask.handleRx E.core p.config event
      world := { p.world with selfTx := events } }
  | _, _, _, _ => none

/-- A sub-task that was not aborted comes to its end. -/
def subTaskStep (p : Pipeline ε) (k : ℕ) (bundle : Except String String) :
    Option (Pipeline ε × List InternalEvent) :=
  if k ∈ p.finished ∨ k ∈ p.world.aborted then none
  else (p.world.spawned[k]?).map fun task =>
    let p := { p with finished := p.finished ++ [k] }
    match task, bundle with
    | .appLaunchedAfter _, _ => (p.send .appLaunched, [])
    | .timer timerId _, _ => (p.send (.timerFired timerId), [])
    | .fetchBundle userId, .ok bundleJson => (p.send (.keyBundleFetched userId bundleJson), [])
    | .fetchBundle _, .error e => (p, [.bridge (.error ("[PREKEY_BUNDLE] " ++ e))])

end Pipeline

/-- The observations since a message was last decrypted. -/
def sinceDecrypted (log : List Obs) : List Obs :=
  log.reverse.takeWhile fun o => match o with | .decrypted _ _ _ => false | _ => true

/-- Whether an event shows a message whose peer's rows were deleted since it was decrypted. -/
def goneAlready (log : List Obs) : BridgeEvent → Bool
  | .newMessage peerId _ _ _ => .contactDeleted peerId ∈ sinceDecrypted log
  | _ => false

namespace Sys

variable {ε : Type} (E : AppExternals ε)

/-- A pipeline moves by itself and tells the app something. -/
def movePipeline (s : Sys ε) (i : ℕ) (p : Pipeline ε) (events : List InternalEvent) : Sys ε :=
  { s with
    pipelines := s.pipelines.set i p
    queue := s.queue ++ events.map fun event => ⟨event, false⟩ }

/-- One atomic step of the orchestrator task, on the shared database; what it tells the app goes
into the queue. -/
def orchestratorStep (s : Sys ε) (i : ℕ) (p : Pipeline ε) : Option (Sys ε) :=
  (p.program.step { p.world with storage := s.db }).map fun (program, world) =>
    { s with
      db := world.storage
      pipelines := s.pipelines.set i { p with program := program, world := { world with ui := [] } }
      queue := s.queue ++ world.ui.map fun event => ⟨.bridge event, goneAlready world.log event⟩ }

/-- One step of the client. The app takes its inputs until it is told to stop. -/
def step (s : Sys ε) : Label ε → Option (Sys ε)
  | .startup ans =>
    if s.app.screen = .startup then some (App.startupCheck ans s) else none
  | .key key ans =>
    if s.app.running then some (App.handleEvent E ans key s) else none
  | .internal ans =>
    if s.app.running then
      match s.queue with
      | [] => none
      | q :: queue => some (App.handleInternal E ans q.event q.gone { s with queue := queue })
    else none
  | .tick => if s.app.ticking then some (s.enqueue .tick) else none
  | .registrationStep k reached =>
    match s.tasks[k]? with
    | some ⟨.register _, _, _⟩ => some (s.enqueue (.registrationStep reached))
    | _ => none
  | .request k fresh ans =>
    match s.tasks[k]? with
    | some ⟨task, false, _⟩ => some (beginRequest E k task fresh ans s)
    | _ => none
  | .finish k result ans =>
    match s.tasks[k]? with
    | some ⟨task, true, session⟩ => some (finishRequest k ⟨task, true, session⟩ result ans s)
    | _ => none
  | .worker i answer =>
    (s.pipelines[i]?).bind fun p => (p.workerStep answer).map fun p' => s.movePipeline i p' []
  | .relay i =>
    (s.pipelines[i]?).bind fun p => (p.relayStep E).map fun r => s.movePipeline i r.1 r.2
  | .take i fromCommands =>
    (s.pipelines[i]?).bind fun p => (p.take E fromCommands).map fun p' => s.movePipeline i p' []
  | .orchestrator i => (s.pipelines[i]?).bind fun p => s.orchestratorStep i p
  | .subTask i k bundle =>
    (s.pipelines[i]?).bind fun p => (p.subTaskStep k bundle).map fun r => s.movePipeline i r.1 r.2

/-- The steps that can be taken, with what each takes for it. -/
inductive Stepped (s : Sys ε) : Label ε → Sys ε → Prop
  | startup {ans : Answers ε} (hscreen : s.app.screen = .startup) :
      Stepped s (.startup ans) (App.startupCheck ans s)
  | key {key : KeyEvent} {ans : Answers ε} (hrunning : s.app.running = true) :
      Stepped s (.key key ans) (App.handleEvent E ans key s)
  | internal {ans : Answers ε} {q : Queued} {queue : List Queued} (hrunning : s.app.running = true)
      (hqueue : s.queue = q :: queue) :
      Stepped s (.internal ans) (App.handleInternal E ans q.event q.gone { s with queue := queue })
  | tick (hticking : s.app.ticking = true) : Stepped s .tick (s.enqueue .tick)
  | registrationStep {k : ℕ} {reached : RegistrationStep} {username : Option String}
      {requested : Bool} {session : Option Session}
      (hr : s.tasks[k]? = some ⟨.register username, requested, session⟩) :
      Stepped s (.registrationStep k reached) (s.enqueue (.registrationStep reached))
  | request {k : ℕ} {fresh : Session} {ans : Answers ε} {task : BackgroundTask}
      {session : Option Session} (hr : s.tasks[k]? = some ⟨task, false, session⟩) :
      Stepped s (.request k fresh ans) (beginRequest E k task fresh ans s)
  | finish {k : ℕ} {result : TaskResult} {ans : Answers ε} {task : BackgroundTask}
      {session : Option Session} (hr : s.tasks[k]? = some ⟨task, true, session⟩) :
      Stepped s (.finish k result ans) (finishRequest k ⟨task, true, session⟩ result ans s)
  | worker {i : ℕ} {answer : StreamWorker.Answer} {p p' : Pipeline ε}
      (hp : s.pipelines[i]? = some p) (hp' : p.workerStep answer = some p') :
      Stepped s (.worker i answer) (s.movePipeline i p' [])
  | relay {i : ℕ} {p : Pipeline ε} {r : Pipeline ε × List InternalEvent}
      (hp : s.pipelines[i]? = some p) (hr : p.relayStep E = some r) :
      Stepped s (.relay i) (s.movePipeline i r.1 r.2)
  | take {i : ℕ} {fromCommands : Bool} {p p' : Pipeline ε} (hp : s.pipelines[i]? = some p)
      (hp' : p.take E fromCommands = some p') :
      Stepped s (.take i fromCommands) (s.movePipeline i p' [])
  | orchestrator {i : ℕ} {p : Pipeline ε} {s' : Sys ε} (hp : s.pipelines[i]? = some p)
      (hs' : s.orchestratorStep i p = some s') : Stepped s (.orchestrator i) s'
  | subTask {i k : ℕ} {bundle : Except String String} {p : Pipeline ε}
      {r : Pipeline ε × List InternalEvent} (hp : s.pipelines[i]? = some p)
      (hr : p.subTaskStep k bundle = some r) :
      Stepped s (.subTask i k bundle) (s.movePipeline i r.1 r.2)

variable {E}

theorem stepped {s s' : Sys ε} {a : Label ε} (h : step E s a = some s') : Stepped E s a s' := by
  cases a with
  | startup ans =>
    rw [step, Option.ite_none_right_eq_some] at h
    exact Option.some.inj h.2 ▸ .startup h.1
  | key key ans =>
    rw [step, Option.ite_none_right_eq_some] at h
    exact Option.some.inj h.2 ▸ .key h.1
  | internal ans =>
    rw [step, Option.ite_none_right_eq_some] at h
    obtain ⟨hrunning, h⟩ := h
    split at h
    · cases h
    · next q queue hqueue => exact Option.some.inj h ▸ .internal hrunning hqueue
  | tick =>
    rw [step, Option.ite_none_right_eq_some] at h
    exact Option.some.inj h.2 ▸ .tick h.1
  | registrationStep k reached =>
    rw [step] at h
    split at h
    · next hr => exact Option.some.inj h ▸ .registrationStep hr
    · cases h
  | request k fresh ans =>
    rw [step] at h
    split at h
    · next hr => exact Option.some.inj h ▸ .request hr
    · cases h
  | finish k result ans =>
    rw [step] at h
    split at h
    · next hr => exact Option.some.inj h ▸ .finish hr
    · cases h
  | worker i answer =>
    obtain ⟨p, hp, h⟩ := Option.bind_eq_some_iff.mp h
    obtain ⟨p', hp', rfl⟩ := Option.map_eq_some_iff.mp h
    exact .worker hp hp'
  | relay i =>
    obtain ⟨p, hp, h⟩ := Option.bind_eq_some_iff.mp h
    obtain ⟨r, hr, rfl⟩ := Option.map_eq_some_iff.mp h
    exact .relay hp hr
  | take i fromCommands =>
    obtain ⟨p, hp, h⟩ := Option.bind_eq_some_iff.mp h
    obtain ⟨p', hp', rfl⟩ := Option.map_eq_some_iff.mp h
    exact .take hp hp'
  | orchestrator i =>
    obtain ⟨p, hp, h⟩ := Option.bind_eq_some_iff.mp h
    exact .orchestrator hp h
  | subTask i k bundle =>
    obtain ⟨p, hp, h⟩ := Option.bind_eq_some_iff.mp h
    obtain ⟨r, hr, rfl⟩ := Option.map_eq_some_iff.mp h
    exact .subTask hp hr

end Sys

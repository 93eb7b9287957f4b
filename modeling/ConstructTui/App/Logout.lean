import ConstructTui.App.Runs

/-!
# After logging out

A logout clears the credentials in memory and on disk, but nothing stops the background tasks: each
result that comes late is handled as if the session were still there. Most handlers find no session
and do nothing. The others are the late results that bring a session back.

## Main definitions

* `Sys.Out`: the client holds no credentials, and no chat screen shows.
* `Sys.userStarts`: the user registers, links or unlocks.
* `Sys.comesLate`: a late result that brings credentials or a chat screen back.
* `Sys.Outside`: what a logout establishes, and what every other step keeps.

## Main results

* `Sys.logout_final_iff`: after a logout, the client stays logged out until the user starts anew, if
  and only if no such result comes.
* `Sys.refresh_after_logout`: a run in which one comes.
-/

variable {ε : Type} {E : AppExternals ε} {ans : Answers ε}

/-- The credentials in memory and on the shared client, and how often a session was written. -/
def Sys.creds (s : Sys ε) :
    (Option Session × Option Session × Option SessionKey) × String × GrpcClient × ℕ :=
  ((s.app.currentSession, s.app.pendingSession, s.app.sessionKey), s.app.accessToken, s.grpc,
    s.dir.writes)

/-- No session, no key and no tokens are left, nothing has been written since the count was `n`, and
neither the chats nor the settings nor the choice of a passphrase shows. -/
structure Sys.Out (n : ℕ) (s : Sys ε) : Prop where
  creds : s.creds = ((none, none, none), "", ⟨none, none⟩, n)
  screen : s.app.screen ≠ .main ∧ s.app.screen ≠ .settings ∧ s.app.screen ≠ .setPassphrase

/-- The user starts a registration, a device link or an unlock. -/
def Sys.userStarts (s : Sys ε) : Label ε → Bool
  | .key key _ => key.isPress && key.code = .enter &&
    match s.app.screen with
    | .onboarding | .unlock => true
    | .deviceLink => trimChars s.app.deviceLink.token ≠ []
    | _ => false
  | _ => false

/-- The request of a task gives the shared client a device id. -/
def Sys.setsDevice (E : AppExternals ε) (s : Sys ε) (ans : Answers ε) : BackgroundTask → Bool
  | .restoreFromDisk =>
    match if ans.readable then s.dir.loadSession else .error ans.error with
    | .ok (some session) => (checkSigningKey E session).toBool
    | _ => false
  | .authenticate session _ => (checkSigningKey E session).toBool
  | .register _ | .link _ | .tokenRefresh _ _ _ | .tokenRefreshNow _ _ | .uploadPreKeys _ _ => true
  | .search _ | .redeem _ _ => false

/-- The events that bring credentials or a chat screen back. -/
def InternalEvent.isLate : InternalEvent → Bool
  | .tokenRefresh (.refreshed _ _ _) | .auth (.success _) | .inviteAccepted _ _ => true
  | _ => false

/-- The answer of a task writes the session file. -/
def writesSession (r : Running) (result : TaskResult) (ans : Answers ε) : Bool :=
  match r, result, ans.save with
  | ⟨.restoreFromDisk, _, some _⟩, .tokens _ _ _ _, .notWritten _ => false
  | ⟨.restoreFromDisk, _, some _⟩, .tokens _ _ _ _, _ => true
  | _, _, _ => false

/-- A late result: a refreshed token, an authentication or an accepted invite reaches the app, a
task that speaks for a device sends its request, or a restored session is written. -/
def Sys.comesLate (E : AppExternals ε) (s : Sys ε) : Label ε → Bool
  | .internal _ => s.queue.head?.any fun q => q.event.isLate
  | .request k _ ans =>
    match s.tasks[k]? with
    | some ⟨task, false, _⟩ => s.setsDevice E ans task
    | _ => false
  | .finish k result ans =>
    match s.tasks[k]? with
    | some ⟨task, true, session⟩ => writesSession ⟨task, true, session⟩ result ans
    | _ => false
  | _ => false

/-- The screens a logged out client can show. -/
def Screen.outside : Screen → Bool
  | .onboarding | .deviceLink | .authError _ => true
  | _ => false

/-- What a logout establishes. -/
structure Sys.Outside (n : ℕ) (s : Sys ε) : Prop where
  creds : s.creds = ((none, none, none), "", ⟨none, none⟩, n)
  screen : s.app.screen.outside

namespace Sys

variable {n : ℕ}

theorem Outside.out {s : Sys ε} (h : s.Outside n) : s.Out n := by
  refine ⟨h.creds, ?_, ?_, ?_⟩ <;>
  · intro hscreen
    have := h.screen
    rw [hscreen] at this
    cases this

theorem Outside.currentSession {s : Sys ε} (h : s.Outside n) : s.app.currentSession = none :=
  congrArg (fun c => c.1.1) h.creds

theorem Outside.sessionKey {s : Sys ε} (h : s.Outside n) : s.app.sessionKey = none :=
  congrArg (fun c => c.1.2.2) h.creds

/-- A step that leaves credentials and screen alone. -/
theorem Outside.congr {s s' : Sys ε} (h : s.Outside n) (hc : s'.creds = s.creds)
    (hs : s'.app.screen = s.app.screen) : s'.Outside n :=
  ⟨hc.trans h.creds, by rw [hs]; exact h.screen⟩

/-- A step that leaves the credentials alone and shows one of the screens. -/
theorem Outside.show {s s' : Sys ε} (h : s.Outside n) (hc : s'.creds = s.creds)
    (hs : s'.app.screen.outside) : s'.Outside n := ⟨hc.trans h.creds, hs⟩

/-! ### Keys -/

theorem Outside.handleOnboarding {s : Sys ε} (h : s.Outside n) {key : KeyEvent}
    (hkey : key.code ≠ .enter) : (App.handleOnboarding key s).Outside n := by
  unfold App.handleOnboarding
  split
  · exact h.show rfl rfl
  · exact h.show rfl rfl
  · next hcode => exact absurd hcode hkey
  · exact h.congr rfl rfl
  · split <;> exact h.congr rfl rfl
  · exact h

theorem Outside.handleDeviceLink {s : Sys ε} (h : s.Outside n) {key : KeyEvent}
    (hkey : key.code = .enter → trimChars s.app.deviceLink.token = []) :
    (App.handleDeviceLink key s).Outside n := by
  unfold App.handleDeviceLink
  split
  · split
    · exact h.show rfl rfl
    · exact h
  · next hcode =>
    have hblank : String.ofList (trimChars s.app.deviceLink.token) = "" := by rw [hkey hcode]
    dsimp only
    rw [if_pos hblank]
    exact h.congr rfl rfl
  · exact h.congr rfl rfl
  · split
    · exact h.show rfl rfl
    · split <;> exact h.congr rfl rfl
  · exact h

/-- A key that starts nothing leaves a logged out client logged out. -/
theorem Outside.handleEvent {s : Sys ε} (h : s.Outside n) {key : KeyEvent}
    (hkey : s.userStarts (.key key ans) = false) : (App.handleEvent E ans key s).Outside n := by
  unfold App.handleEvent
  by_cases hpress : key.isPress = true
  · simp only [hpress, Bool.not_true, Bool.false_eq_true, if_false]
    split
    · exact h.congr rfl rfl
    · have hscreen := h.screen
      cases hs : s.app.screen with
      | authError msg =>
        dsimp only
        rw [h.sessionKey]
        exact h.show rfl rfl
      | onboarding =>
        refine h.handleOnboarding fun hcode => ?_
        simp [userStarts, hpress, hcode, hs] at hkey
      | deviceLink =>
        refine h.handleDeviceLink fun hcode => ?_
        simpa [userStarts, hpress, hcode, hs] using hkey
      | _ =>
        rw [hs] at hscreen
        cases hscreen
  · simp only [hpress]
    exact h

/-! ### Events -/

theorem Outside.handleAuthFailure {s : Sys ε} (h : s.Outside n) (msg : String) :
    (App.handleAuthMsg E ans (.failure msg) s).Outside n := by
  obtain ⟨screen, hscreen, heq⟩ := App.handleAuthMsg_failure E ans msg s
  rw [heq]
  obtain rfl | rfl := hscreen <;> exact h.show rfl rfl

theorem Outside.handleBridgeEvent {s : Sys ε} (h : s.Outside n) (event : BridgeEvent)
    (gone : Bool) : (App.handleBridgeEvent ans event gone s).Outside n := by
  cases event with
  | streamStatus connected =>
    unfold App.handleBridgeEvent
    refine h.congr ?_ ?_ <;> (cases connected <;> rfl)
  | _ => exact h.congr rfl rfl

theorem Outside.handleP2pStatus {s : Sys ε} (h : s.Outside n) (peerId : String)
    (connected : Bool) (latencyMs : Option ℕ) (isRelay : Bool) :
    (App.handleP2pStatus peerId connected latencyMs isRelay s).Outside n := by
  unfold App.handleP2pStatus
  refine h.congr ?_ ?_ <;> (cases connected <;> cases isRelay <;> rfl)

/-- Every other event leaves a logged out client logged out. -/
theorem Outside.handleInternal {s : Sys ε} (h : s.Outside n) {event : InternalEvent} (gone : Bool)
    (hevent : event.isLate = false) : (App.handleInternal E ans event gone s).Outside n := by
  cases event with
  | auth msg =>
    cases msg with
    | success m => cases hevent
    | failure msg =>
      have hscreen : s.app.screen ≠ .registering := by
        intro hs
        have := h.screen
        rw [hs] at this
        cases this
      unfold App.handleInternal
      dsimp only
      rw [if_neg hscreen]
      exact h.handleAuthFailure msg
  | tokenRefresh msg =>
    cases msg with
    | refreshed accessToken refreshToken expiresAt => cases hevent
    | failedTransport e => exact h
    | failedAuth e =>
      show (App.startDeviceReauth s).Outside n
      unfold App.startDeviceReauth
      rw [h.currentSession]
      exact h.congr rfl rfl
  | bridge event => exact h.handleBridgeEvent event gone
  | contactSearchResult results => exact h.congr rfl rfl
  | contactSearchError msg => exact h.congr rfl rfl
  | inviteAccepted userId username => cases hevent
  | registrationStep reached => exact h.congr rfl rfl
  | tick =>
    unfold App.handleInternal
    dsimp only
    split
    · exact h.congr rfl rfl
    · exact h
  | streamAuthRequired =>
    show (App.refreshTokenNow s).Outside n
    unfold App.refreshTokenNow
    rw [h.currentSession]
    exact h
  | p2pStatus peerId connected latencyMs isRelay =>
    exact h.handleP2pStatus peerId connected latencyMs isRelay

/-! ### Tasks -/

/-- A task that sets no device id leaves the credentials alone while it begins. -/
theorem beginRequest_quiet {s : Sys ε} {ans : Answers ε} {task : BackgroundTask}
    (h : s.setsDevice E ans task = false) (k : ℕ) (fresh : Session) :
    (beginRequest E k task fresh ans s).creds = s.creds ∧
      (beginRequest E k task fresh ans s).app = s.app := by
  have hauth (session : Session) (reauth : Bool) (t : Sys ε)
      (hkey : (checkSigningKey E session).toBool = false) :
      (beginAuthenticate E k session reauth t).creds = t.creds ∧
        (beginAuthenticate E k session reauth t).app = t.app := by
    unfold beginAuthenticate
    cases hs : checkSigningKey E session with
    | error e => exact ⟨rfl, rfl⟩
    | ok u =>
      rw [hs] at hkey
      cases hkey
  have hdir : Sys.creds { s with dir := s.dir.sessionPath } = s.creds := by simp [creds]
  cases task with
  | restoreFromDisk =>
    unfold beginRequest
    unfold setsDevice at h
    dsimp only at h ⊢
    cases hl : (if ans.readable then s.dir.loadSession else .error ans.error) with
    | error e => exact ⟨hdir, rfl⟩
    | ok found =>
      rw [hl] at h
      cases found with
      | none => exact ⟨hdir, rfl⟩
      | some session =>
        have hs := hauth session false { s with dir := s.dir.sessionPath } h
        exact ⟨hs.1.trans hdir, hs.2⟩
  | authenticate session reauth => exact hauth session reauth s h
  | search query => exact ⟨rfl, rfl⟩
  | redeem invite username => exact ⟨rfl, rfl⟩
  | register username => cases h
  | link token => cases h
  | tokenRefresh deviceId refreshToken expiresAt => cases h
  | tokenRefreshNow deviceId refreshToken => cases h
  | uploadPreKeys deviceId keys => cases h

/-- A task that sets a device id leaves one on the shared client. -/
theorem beginRequest_setsDevice {s : Sys ε} {ans : Answers ε} {task : BackgroundTask}
    (h : s.setsDevice E ans task) (k : ℕ) (fresh : Session) :
    (beginRequest E k task fresh ans s).grpc.deviceId.isSome := by
  have hauth (session : Session) (reauth : Bool) (t : Sys ε)
      (hkey : (checkSigningKey E session).toBool) :
      (beginAuthenticate E k session reauth t).grpc.deviceId.isSome := by
    unfold beginAuthenticate
    cases hs : checkSigningKey E session with
    | error e =>
      rw [hs] at hkey
      cases hkey
    | ok u => rfl
  cases task with
  | restoreFromDisk =>
    unfold beginRequest
    unfold setsDevice at h
    dsimp only at h ⊢
    cases hl : (if ans.readable then s.dir.loadSession else .error ans.error) with
    | error e =>
      rw [hl] at h
      cases h
    | ok found =>
      rw [hl] at h
      cases found with
      | none => cases h
      | some session => exact hauth session false _ h
  | authenticate session reauth => exact hauth session reauth s h
  | search query => cases h
  | redeem invite username => cases h
  | register username => rfl
  | link token => rfl
  | tokenRefresh deviceId refreshToken expiresAt => rfl
  | tokenRefreshNow deviceId refreshToken => rfl
  | uploadPreKeys deviceId keys => rfl

theorem finishRequest_app (k : ℕ) (r : Running) (result : TaskResult) (ans : Answers ε)
    (s : Sys ε) : (finishRequest k r result ans s).app = s.app :=
  (behind_finishRequest k r result ans s).app

/-- The credentials stay as they are when a task ends, unless it writes the session file. -/
theorem finishRequest_creds (k : ℕ) (r : Running) (result : TaskResult) (ans : Answers ε)
    (s : Sys ε) :
    (finishRequest k r result ans s).creds = ((s.app.currentSession, s.app.pendingSession,
      s.app.sessionKey), s.app.accessToken, s.grpc,
      s.dir.writes + (writesSession r result ans).toNat) := by
  obtain ⟨task, requested, session⟩ := r
  have hsave (file : SessionFile) : (s.dir.saveFile file ans.save).2.writes =
      s.dir.writes + (match ans.save with | .notWritten _ => false | _ => true).toNat := by
    unfold ConfigDir.saveFile
    cases ans.save <;> simp
  cases task with
  | restoreFromDisk =>
    cases result with
    | tokens userId accessToken refreshToken expiresAt =>
      cases session with
      | none => rfl
      | some session =>
        have h := hsave (.plaintext (session.withTokens accessToken refreshToken expiresAt))
        unfold finishRequest writesSession
        dsimp only
        split
        · next e dir hdir =>
          rw [hdir] at h
          cases hs : ans.save <;> simp_all [creds, conclude, enqueue]
        · next dir hdir =>
          rw [hdir] at h
          cases hs : ans.save <;> simp_all [creds, conclude, enqueue]
    | _ => cases session <;> rfl
  | authenticate saved reauth => cases result <;> cases session <;> rfl
  | register username => cases result <;> cases session <;> rfl
  | link token => cases result <;> cases session <;> rfl
  | search query =>
    cases result with
    | found userId => cases userId <;> rfl
    | _ => rfl
  | _ => cases result <;> rfl

/-! ### Steps -/

theorem grpc_startOrchestrator (E : AppExternals ε) (ans : Answers ε) (session : Session)
    (userId deviceId : String) (s : Sys ε) :
    (App.startOrchestrator E ans session userId deviceId s).grpc = s.grpc := by
  have hload (s : Sys ε) : (App.loadContacts ans s).grpc = s.grpc := by
    unfold App.loadContacts
    split <;> rfl
  unfold App.startOrchestrator
  split
  · rfl
  · unfold App.spawnPipeline
    dsimp only
    split <;> exact hload s

/-- A successful authentication gives the shared client a token. -/
theorem grpc_success (E : AppExternals ε) (ans : Answers ε) (m : AuthSuccess) (s : Sys ε) :
    (App.handleAuthMsg E ans (.success m) s).grpc = ⟨some m.accessToken, some m.deviceId⟩ := by
  have henter (s : Sys ε) : (App.enterMain E ans m s).grpc = s.grpc :=
    grpc_startOrchestrator E ans m.fullSession m.userId m.deviceId s
  have hsave (session : Session) (s : Sys ε) : (App.saveSession ans session s).2.grpc = s.grpc :=
    rfl
  unfold App.handleAuthMsg
  dsimp only
  split
  · next session _ =>
    unfold App.saveAndEnter
    split
    · have hgrpc := hsave session (App.startTokenRefresh session (App.adoptSession m s))
      split
      · next hsaved =>
        rw [hsaved] at hgrpc
        exact (henter _).trans hgrpc
      · next hsaved =>
        rw [hsaved] at hgrpc
        exact hgrpc
    · rfl
  · exact henter _

theorem screen_finishAddContact (ans : Answers ε) (userId username : String) (s : Sys ε) :
    (App.finishAddContact ans userId username s).app.screen = .main := by
  unfold App.finishAddContact
  rfl

/-- A late event brings credentials or the chats back. -/
theorem Outside.handleInternal_late {s : Sys ε} (h : s.Outside n) {event : InternalEvent}
    (gone : Bool) (hevent : event.isLate) : ¬(App.handleInternal E ans event gone s).Out n := by
  intro hout
  have htoken : (App.handleInternal E ans event gone s).grpc.token = none :=
    congrArg (fun c => c.2.2.1.token) hout.creds
  cases event with
  | auth msg =>
    cases msg with
    | success m =>
      have hgrpc : (App.handleInternal E ans (.auth (.success m)) gone s).grpc =
          ⟨some m.accessToken, some m.deviceId⟩ := grpc_success E ans m _
      rw [hgrpc] at htoken
      cases htoken
    | failure msg => cases hevent
  | tokenRefresh msg =>
    cases msg with
    | refreshed accessToken refreshToken expiresAt =>
      have hgrpc : (App.handleInternal E ans
          (.tokenRefresh (.refreshed accessToken refreshToken expiresAt)) gone s).grpc.token =
          some accessToken := by
        show (App.handleTokenRefreshMsg ans (.refreshed _ _ _) s).grpc.token = _
        unfold App.handleTokenRefreshMsg
        dsimp only [modApp]
        rw [h.currentSession]
      rw [hgrpc] at htoken
      cases htoken
    | failedTransport e => cases hevent
    | failedAuth e => cases hevent
  | inviteAccepted userId username =>
    exact hout.screen.1 (screen_finishAddContact ans userId username s)
  | _ => cases hevent

/-- One step keeps a logged out client logged out, if the user starts nothing and nothing comes
late. -/
theorem Outside.next {s s' : Sys ε} {a : Label ε} (h : s.Outside n)
    (huser : s.userStarts a = false) (hs : step E s a = some s') (hlate : s.comesLate E a = false) :
    s'.Outside n := by
  cases stepped hs with
  | startup hscreen =>
    have hout := h.screen
    rw [hscreen] at hout
    cases hout
  | key => exact h.handleEvent huser
  | @internal ans q queue _ hqueue =>
    have hevent : q.event.isLate = false := by simpa [comesLate, hqueue] using hlate
    have hpopped : Outside n { s with queue := queue } := h.congr rfl rfl
    exact hpopped.handleInternal q.gone hevent
  | @request k fresh ans task session hr =>
    have hset : s.setsDevice E ans task = false := by simpa [comesLate, hr] using hlate
    obtain ⟨hcreds, happ⟩ := beginRequest_quiet hset k fresh
    exact h.congr hcreds (congrArg App.screen happ)
  | @finish k result ans task session hr =>
    have hwrites : writesSession ⟨task, true, session⟩ result ans = false := by
      simpa [comesLate, hr] using hlate
    have hcreds := finishRequest_creds k ⟨task, true, session⟩ result ans s
    rw [hwrites] at hcreds
    exact h.congr hcreds (congrArg App.screen (finishRequest_app k _ _ _ s))
  | tick | registrationStep | worker | relay | take | subTask => exact h.congr rfl rfl
  | orchestrator hp hs' =>
    obtain ⟨r, -, rfl⟩ := Option.map_eq_some_iff.mp hs'
    exact h.congr rfl rfl

/-- A late result ends the logout. -/
theorem Outside.not_late {s s' : Sys ε} {a : Label ε} (h : s.Outside n)
    (hs : step E s a = some s') (hout : s'.Out n) : s.comesLate E a = false := by
  rw [Bool.eq_false_iff]
  intro hlate
  cases stepped hs with
  | @internal ans q queue _ hqueue =>
    have hevent : q.event.isLate := by simpa [comesLate, hqueue] using hlate
    have hpopped : Outside n { s with queue := queue } := h.congr rfl rfl
    exact hpopped.handleInternal_late q.gone hevent hout
  | @request k fresh ans task session hr =>
    have hset : s.setsDevice E ans task := by simpa [comesLate, hr] using hlate
    have hdevice := beginRequest_setsDevice hset k fresh
    have hnone : (beginRequest E k task fresh ans s).grpc.deviceId = none :=
      congrArg (fun c => c.2.2.1.deviceId) hout.creds
    rw [hnone] at hdevice
    cases hdevice
  | @finish k result ans task session hr =>
    have hwrites : writesSession ⟨task, true, session⟩ result ans = true := by
      simpa [comesLate, hr] using hlate
    have hcreds := finishRequest_creds k ⟨task, true, session⟩ result ans s
    have hn : (finishRequest k ⟨task, true, session⟩ result ans s).dir.writes = n :=
      congrArg (fun c => c.2.2.2) hout.creds
    have hsn : s.dir.writes = n := congrArg (fun c => c.2.2.2) h.creds
    have hsucc : (finishRequest k ⟨task, true, session⟩ result ans s).dir.writes =
        s.dir.writes + 1 := by
      rw [hwrites] at hcreds
      exact congrArg (fun c => c.2.2.2) hcreds
    omega
  | _ => cases hlate

/-! ### The logout -/

theorem outside_doLogout {s : Sys ε} (h : (s.dir.clearSession ans.clear).1 = .ok ()) :
    (App.doLogout ans s).Outside (App.doLogout ans s).dir.writes := by
  unfold App.doLogout
  split
  · next e dir hdir => simp [hdir] at h
  · exact ⟨rfl, rfl⟩

theorem outside_logout {s t : Sys ε} {a : Label ε} {input : Input} (ha : s.Takes a ans input)
    (h : LogsOut ans s input) (hs : step E s a = some t) : t.Outside t.dir.writes := by
  obtain ⟨queue, -, rfl⟩ := step_of_takes ha hs
  cases input with
  | event event gone => cases h
  | key key =>
    obtain ⟨hscreen, hpress, hquit, hkey, hclear⟩ := h
    have hlogout : App.handle E ans { s with queue := queue } (.key key) =
        App.doLogout ans { s with queue := queue } :=
      App.handleEvent_of_logsOut E ans ⟨hscreen, hpress, hquit, hkey, hclear⟩
    rw [hlogout]
    exact outside_doLogout hclear

/-- After a logout, the client stays logged out for as long as the user starts nothing, if and only
if no late result comes. -/
theorem logout_final_iff {s t u : Sys ε} {a : Label ε} {input : Input} {bs : List (Label ε)}
    (ha : s.Takes a ans input) (hlogout : LogsOut ans s input) (hs : step E s a = some t)
    (huser : Run.Along (step E) (fun t b => t.userStarts b = false) t bs)
    (hrun : Run.after (step E) t bs = some u) :
    Run.Always (step E) (Out t.dir.writes) t bs ↔
      Run.Along (step E) (fun t b => t.comesLate E b = false) t bs :=
  Run.always_iff_along_given (fun _ => Outside.out) (fun _ _ _ hI hH hs hG => hI.next hH hs hG)
    (fun _ _ _ hI _ hs hP => hI.not_late hs hP) (outside_logout ha hlogout hs) huser hrun

/-- The keys with which the user opens the settings, and logs out there. -/
def opensSettings : Label Unit := .key (.plain (.char 's')) .quiet

def pressesLogout : Label Unit := .key (.plain (.char 'l')) .quiet

/-- The news that the stream has connected comes late, and then the user types a letter. -/
def connectsLate : List (Label Unit) := [.internal .quiet, .key (.plain (.char 'a')) .quiet]

theorem connected_after_logout : ∃ s t,
    Run.after (step .quiet) fresh (registers ++ connects.take 5 ++ [opensSettings]) = some s ∧
      step .quiet s pressesLogout = some t ∧
      Run.Always (step .quiet) (Out t.dir.writes) t connectsLate := by
  have hs : (Run.after (step .quiet) fresh
    (registers ++ connects.take 5 ++ [opensSettings])).isSome := rfl
  have ht : (step .quiet (Option.get _ hs) pressesLogout).isSome := rfl
  have hu : (Run.after (step .quiet) (Option.get _ ht) connectsLate).isSome := rfl
  refine ⟨_, _, (Option.some_get hs).symm, (Option.some_get ht).symm, ?_⟩
  exact (logout_final_iff (.key (.plain (.char 'l')) .quiet) ⟨rfl, rfl, by decide, .inl rfl, rfl⟩
    (Option.some_get ht).symm (by decide +revert) (Option.some_get hu).symm).mpr
    (by decide +revert)

/-- The answer of a token refresh that was under way at the logout comes late. -/
def refreshesLate : List (Label Unit) :=
  [.finish 0 (.tokens "me" "access2" "refresh2" 200) .quiet, .internal .quiet]

/-- It brings an access token back, in memory and on the shared client. -/
theorem refresh_after_logout : ∃ s t,
    Run.after (step .quiet) fresh (registers ++ [.request 0 .zeros .quiet, opensSettings]) =
      some s ∧ LogsOut .quiet s (.key (.plain (.char 'l'))) ∧ step .quiet s pressesLogout = some t ∧
      Run.Along (step .quiet) (fun t b => t.userStarts b = false) t refreshesLate ∧
      ¬Run.Always (step .quiet) (Out t.dir.writes) t refreshesLate := by
  have hs : (Run.after (step .quiet) fresh
    (registers ++ [.request 0 .zeros .quiet, opensSettings])).isSome := rfl
  have ht : (step .quiet (Option.get _ hs) pressesLogout).isSome := rfl
  have hu : (Run.after (step .quiet) (Option.get _ ht) refreshesLate).isSome := rfl
  refine ⟨_, _, (Option.some_get hs).symm, ⟨rfl, rfl, by decide, .inl rfl, rfl⟩,
    (Option.some_get ht).symm, by decide +revert, fun h => ?_⟩
  have hout := h _ _ (List.prefix_refl _) (Option.some_get hu).symm
  have htoken : some "access2" = none := congrArg (fun c => c.2.2.1.token) hout.creds
  cases htoken

end Sys

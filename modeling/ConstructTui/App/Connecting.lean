import ConstructTui.App.Credentials

/-!
# The screens that wait

The first screen, the one that registers and the one that connects take no key. What leads out of
them is the answer to an authentication, whichever one it is and whatever the answer is. So none may
be on display without an authentication that is under way, or an answer that is still queued.

## Main definitions

* `Screen.waits`: the screens that take no key.
* `Sys.Attended`: an authentication is under way, or its answer is queued.
* `Sys.Poised`: the screen that waits is attended.

## Main results

* `App.poised_handle`, `Sys.poised_step`: every step keeps that.
* `Sys.never_stuck`: there is always a way out, whatever the server answers.
-/

variable {ε : Type} {E : AppExternals ε} {ans : Answers ε}

/-- The screens that take no key but the one that quits. -/
def Screen.waits : Screen → Bool
  | .startup | .registering | .connecting _ => true
  | _ => false

theorem Screen.waits_of_signedIn {screen : Screen} (h : screen.signedIn) :
    screen.waits = false := by
  cases screen with
  | startup | registering | connecting _ => cases h
  | _ => rfl

/-- The tasks whose answer is about an authentication. -/
def BackgroundTask.authenticates : BackgroundTask → Bool
  | .restoreFromDisk | .authenticate _ _ | .register _ | .link _ => true
  | _ => false

def InternalEvent.isAuth : InternalEvent → Bool
  | .auth _ => true
  | _ => false

/-- What the server can answer to an authentication. -/
def TaskResult.answersAuth : TaskResult → Bool
  | .tokens _ _ _ _ | .failed _ | .rejected _ => true
  | _ => false

namespace Sys

/-- An authentication is under way, or its answer is queued. -/
def Attended (s : Sys ε) : Prop :=
  (∃ r ∈ s.tasks, r.task.authenticates) ∨ ∃ e ∈ s.queue.map Queued.event, e.isAuth

/-- A screen that waits was there before, or an authentication has been started. -/
def Begins (s s' : Sys ε) : Prop :=
  s'.app.screen.waits → s'.app.screen = s.app.screen ∨ ∃ r ∈ s'.tasks, r.task.authenticates

/-- The screen is left alone or the chats are shown, and the client goes on. -/
def Calm (s s' : Sys ε) : Prop :=
  (s'.app.screen = s.app.screen ∨ s'.app.screen = .main) ∧ s'.app.running = s.app.running

namespace Begins

variable {s t u : Sys ε}

theorem of_eq (h : t.app.screen = s.app.screen) : s.Begins t := fun _ => .inl h

theorem shows (h : t.app.screen.waits = false) : s.Begins t := fun hwaits => by
  rw [h] at hwaits
  cases hwaits

theorem spawned (task : BackgroundTask) (h : task.authenticates)
    (htasks : t.tasks = s.tasks ++ [started task]) : s.Begins t := by
  refine fun _ => .inr ⟨started task, ?_, h⟩
  rw [htasks]
  exact List.mem_append_right _ List.mem_cons_self

theorem account {P : Screen → Prop} (hP : ∀ screen, P screen → screen.waits = false)
    (h : Account.Shows P s.account t.account) : s.Begins t := by
  obtain ⟨screen, _, hscreen, -, heq⟩ := h
  have ht : t.app.screen = screen := congrArg Account.screen heq
  exact .shows (ht ▸ hP screen hscreen)

end Begins

end Sys

namespace App

open Sys

variable (E ans)

/-! ### Keys -/

theorem begins_handleOnboarding (key : KeyEvent) (s : Sys ε) :
    s.Begins (handleOnboarding key s) := by
  unfold handleOnboarding
  split
  case h_1 | h_2 => exact .shows rfl
  case h_3 => exact .spawned (.register _) rfl rfl
  case h_5 => split <;> exact .of_eq rfl
  all_goals exact .of_eq rfl

theorem begins_handleDeviceLink (key : KeyEvent) (s : Sys ε) :
    s.Begins (handleDeviceLink key s) := by
  unfold handleDeviceLink
  split
  · split
    · exact .shows rfl
    · exact .of_eq rfl
  · dsimp only
    split
    · exact .of_eq rfl
    · exact .spawned (.link _) rfl rfl
  · exact .of_eq rfl
  · split
    · exact .shows rfl
    · split <;> exact .of_eq rfl
  · exact .of_eq rfl

theorem begins_handleUnlock (key : KeyEvent) (s : Sys ε) : s.Begins (handleUnlock E ans key s) := by
  unfold handleUnlock
  cases key.code with
  | backspace => exact .of_eq rfl
  | char c => exact .of_eq rfl
  | enter =>
    dsimp only
    split
    · exact .of_eq rfl
    · unfold unlock
      dsimp only
      split
      · exact .of_eq rfl
      · split
        · split
          · exact .spawned (.authenticate _ _) rfl rfl
          · exact .of_eq rfl
          · exact .of_eq rfl
        · exact .of_eq rfl
        · exact .of_eq rfl
  | _ => exact .of_eq rfl

theorem begins_handleSetPassphrase (key : KeyEvent) (s : Sys ε) :
    s.Begins (handleSetPassphrase E ans key s) := by
  unfold handleSetPassphrase
  cases key.code with
  | backspace => exact .of_eq rfl
  | char c => exact .of_eq rfl
  | enter =>
    dsimp only
    split
    · exact .of_eq rfl
    · split
      · exact .of_eq rfl
      · unfold protect
        dsimp only
        split
        · exact .of_eq rfl
        · split
          · exact .of_eq rfl
          · exact .shows rfl
  | _ => exact .of_eq rfl

theorem begins_handleSettings (key : KeyEvent) (s : Sys ε) :
    s.Begins (handleSettings E ans key s) := by
  have hlogout : s.Begins (doLogout ans s) := by
    unfold doLogout
    split
    · exact .of_eq rfl
    · exact .shows rfl
  have hsafety : s.Begins (openSafetyNumberScreen E ans s) := by
    unfold openSafetyNumberScreen
    split
    · exact .of_eq rfl
    · split
      · exact .of_eq rfl
      · exact .shows rfl
  have hexport : s.Begins (exportIdentityKey ans s) := by
    unfold exportIdentityKey
    split
    · exact .of_eq rfl
    · split <;> exact .of_eq rfl
  unfold handleSettings
  split
  case h_6 =>
    split
    · next action _ =>
      cases action with
      | logout => exact hlogout
      | showSafetyNumber => exact hsafety
      | exportKeys => exact hexport
      | _ => exact .shows rfl
    · exact .of_eq rfl
  case h_7 | h_8 => exact hlogout
  case h_11 | h_12 => exact hsafety
  case h_1 | h_9 | h_10 => exact .shows rfl
  all_goals exact .of_eq rfl

/-- A key shows a screen that waits together with a task that it starts. -/
theorem begins_handleEvent (key : KeyEvent) (s : Sys ε) : s.Begins (handleEvent E ans key s) := by
  unfold handleEvent
  split
  · exact .of_eq rfl
  · split
    · exact .of_eq rfl
    · split
      · exact .of_eq rfl
      · exact .of_eq rfl
      · exact .of_eq rfl
      · split <;> exact .shows rfl
      · exact begins_handleUnlock E ans key s
      · exact begins_handleSetPassphrase E ans key s
      · exact begins_handleOnboarding key s
      · exact begins_handleDeviceLink key s
      · next hscreen =>
        exact .account (fun _ => Screen.waits_of_signedIn) (shows_handleMain ans hscreen key)
      · exact begins_handleSettings E ans key s
      · next hscreen =>
        exact .account (fun _ => Screen.waits_of_signedIn)
          (shows_handleContactSearch E ans hscreen key)
      · exact .shows rfl
      · exact .shows rfl

/-! ### Events -/

/-- The answer to an authentication leads to a screen that takes keys. -/
theorem handleAuthMsg_leads (msg : AuthMsg) (s : Sys ε) :
    (handleAuthMsg E ans msg s).app.screen.waits = false := by
  cases msg with
  | failure msg =>
    obtain ⟨screen, rfl | rfl, heq⟩ := handleAuthMsg_failure E ans msg s <;> rw [heq] <;> rfl
  | success m =>
    unfold handleAuthMsg
    dsimp only
    split
    · unfold saveAndEnter
      split
      · split <;> rfl
      · rfl
    · rfl

theorem handleInternal_leads {event : InternalEvent} (h : event.isAuth) (gone : Bool)
    (s : Sys ε) : (handleInternal E ans event gone s).app.screen.waits = false := by
  cases event with
  | auth msg =>
    obtain ⟨v, -, heq⟩ := handleInternal_auth E ans msg gone s
    rw [heq]
    exact handleAuthMsg_leads E ans msg v
  | _ => cases h

/-- Any other event leaves the screen or shows the chats, and does not quit. -/
theorem calm_handleInternal {event : InternalEvent} (h : event.isAuth = false) (gone : Bool)
    (s : Sys ε) : s.Calm (handleInternal E ans event gone s) := by
  cases event with
  | auth msg => cases h
  | tokenRefresh msg =>
    cases msg with
    | refreshed accessToken refreshToken expiresAt =>
      show s.Calm (handleTokenRefreshMsg ans (.refreshed accessToken refreshToken expiresAt) s)
      unfold handleTokenRefreshMsg
      dsimp only [Sys.modApp]
      split
      · exact ⟨.inl rfl, rfl⟩
      · unfold persistSessionBackground
        dsimp only
        split <;> exact ⟨.inl rfl, rfl⟩
    | failedTransport e => exact ⟨.inl rfl, rfl⟩
    | failedAuth e =>
      show s.Calm (startDeviceReauth s)
      unfold startDeviceReauth
      split <;> exact ⟨.inl rfl, rfl⟩
  | bridge event =>
    cases event with
    | streamStatus connected => cases connected <;> exact ⟨.inl rfl, rfl⟩
    | _ => exact ⟨.inl rfl, rfl⟩
  | inviteAccepted userId username =>
    obtain ⟨t, u, rfl, -, happ, heq⟩ := finishAddContact_eq ans userId username s
    show s.Calm (finishAddContact ans userId username s)
    have hrunning : u.app.running = s.app.running := by rw [happ]
    rw [heq]
    exact ⟨.inr rfl, hrunning⟩
  | tick =>
    unfold handleInternal
    dsimp only
    split <;> exact ⟨.inl rfl, rfl⟩
  | streamAuthRequired =>
    show s.Calm (refreshTokenNow s)
    unfold refreshTokenNow
    split <;> exact ⟨.inl rfl, rfl⟩
  | p2pStatus peerId connected latencyMs isRelay =>
    show s.Calm (handleP2pStatus peerId connected latencyMs isRelay s)
    unfold handleP2pStatus Calm
    dsimp only [Sys.modApp]
    split
    · exact ⟨.inl rfl, rfl⟩
    · split <;> exact ⟨.inl rfl, rfl⟩
  | _ => exact ⟨.inl rfl, rfl⟩

end App

/-! ### Steps -/

namespace Sys

variable {s s' : Sys ε}

/-- A task that waits for the answer to an authentication has a session to return. -/
def Returns (s : Sys ε) : Prop :=
  ∀ r ∈ s.tasks, r.task.authenticates → r.requested → r.session.isSome

/-- A screen that waits is attended. -/
structure Poised (s : Sys ε) : Prop where
  attended : s.app.screen.waits → s.app.screen = .startup ∨ s.Attended
  tasks : s.Returns

/-- An input starts tasks that have not asked for anything. -/
theorem Returns.handle (hs : s.Returns) (input : Input) : (App.handle E ans s input).Returns := by
  obtain ⟨ts, -, htasks⟩ := App.tasks_handle E ans s input
  intro r hr htask hrequested
  rw [htasks] at hr
  obtain hr | hr := List.mem_append.mp hr
  · exact hs r hr htask hrequested
  · obtain ⟨task, -, rfl⟩ := List.mem_map.mp hr
    cases hrequested

/-- An input keeps the tasks and the events that were there. -/
theorem poised_handle (hs : s.Poised) (input : Input)
    (hbegins : s.Begins (App.handle E ans s input)) : (App.handle E ans s input).Poised := by
  refine ⟨fun hwaits => ?_, hs.tasks.handle input⟩
  obtain hsame | hspawned := hbegins hwaits
  · rw [hsame] at hwaits ⊢
    refine (hs.attended hwaits).imp_right ?_
    rintro (⟨r, hr, htask⟩ | ⟨e, he, hauth⟩)
    · obtain ⟨ts, -, htasks⟩ := App.tasks_handle E ans s input
      exact .inl ⟨r, htasks ▸ List.mem_append_left _ hr, htask⟩
    · have hevents : (App.handle E ans s input).queue.map Queued.event =
          s.queue.map Queued.event := events_handle E ans s input
      exact .inr ⟨e, hevents ▸ he, hauth⟩
  · exact .inr (.inl hspawned)

/-- A task that ends leaves its answer in its place, if it was to authenticate. -/
theorem Poised.ended (hs : s.Poised) {k : ℕ} {r : Running} (hr : s.tasks[k]? = some r)
    (es : List InternalEvent) (hes : r.task.authenticates → ∃ e ∈ es, e.isAuth)
    (hscreen : s'.app.screen = s.app.screen) (htasks : s'.tasks = s.tasks.eraseIdx k)
    (hqueue : s'.queue.map Queued.event = s.queue.map Queued.event ++ es) : s'.Poised := by
  refine ⟨fun hwaits => ?_, fun r hr => hs.tasks r (List.mem_of_mem_eraseIdx (htasks ▸ hr))⟩
  unfold Attended
  rw [hscreen] at hwaits ⊢
  rw [htasks, hqueue]
  refine (hs.attended hwaits).imp_right ?_
  rintro (⟨r', hr', htask⟩ | ⟨e, he, hauth⟩)
  · obtain ⟨i, hi⟩ := List.mem_iff_getElem?.mp hr'
    by_cases hik : i = k
    · subst hik
      obtain rfl := Option.some.inj (hr.symm.trans hi)
      obtain ⟨e, he, hauth⟩ := hes htask
      exact .inr ⟨e, List.mem_append_right _ he, hauth⟩
    · exact .inl ⟨r', List.mem_eraseIdx_iff_getElem?.mpr ⟨i, hik, hi⟩, htask⟩
  · exact .inr ⟨e, List.mem_append_left _ he, hauth⟩

theorem Poised.conclude (hs : s.Poised) {k : ℕ} {r : Running} (hr : s.tasks[k]? = some r)
    {e : InternalEvent} (he : r.task.authenticates → e.isAuth) : (s.conclude k e).Poised :=
  hs.ended hr [e] (fun h => ⟨e, List.mem_cons_self, he h⟩) rfl rfl List.map_append

/-- A task that has sent its request goes on to authenticate. -/
theorem Poised.await (hs : s.Poised) {k : ℕ} {r : Running} (hr : s.tasks[k]? = some r)
    {session : Option Session} (hsession : r.task.authenticates → session.isSome) :
    (s.await k session).Poised := by
  refine ⟨fun hwaits => (hs.attended hwaits).imp_right ?_, ?_⟩
  · rintro (⟨r', hr', htask⟩ | hevent)
    · have hmem : r'.task ∈ (s.await k session).tasks.map Running.task := by
        rw [show (s.await k session).tasks.map Running.task = s.tasks.map Running.task from
          map_task_modify s.tasks k session]
        exact List.mem_map_of_mem hr'
      obtain ⟨r, hr, heq⟩ := List.mem_map.mp hmem
      exact .inl ⟨r, hr, heq ▸ htask⟩
    · exact .inr hevent
  · refine forall_mem_modify hs.tasks fun r' hr' htask _ => ?_
    obtain rfl := Option.some.inj (hr.symm.trans hr')
    exact hsession htask

/-- Nothing that matters here changes. -/
theorem Poised.congr (hs : s.Poised) (hscreen : s'.app.screen = s.app.screen)
    (htasks : s'.tasks = s.tasks) (hqueue : s'.queue = s.queue) : s'.Poised := by
  refine ⟨?_, fun r hr => hs.tasks r (htasks ▸ hr)⟩
  unfold Attended
  rw [hscreen, htasks, hqueue]
  exact hs.attended

theorem poised_beginRequest (hs : s.Poised) {k : ℕ} {task : BackgroundTask}
    {old : Option Session} (hr : s.tasks[k]? = some ⟨task, false, old⟩) (fresh : Session) :
    (beginRequest E k task fresh ans s).Poised := by
  have hbegin {t : Sys ε} (ht : t.Poised) (htasks : t.tasks = s.tasks) (session : Session)
      (reauth : Bool) : (beginAuthenticate E k session reauth t).Poised := by
    have hr' : t.tasks[k]? = some ⟨task, false, old⟩ := htasks ▸ hr
    unfold beginAuthenticate
    split
    · exact ht.conclude hr' fun _ => rfl
    · exact Poised.await (s := t.setDeviceId _) (ht.congr rfl rfl rfl) hr' fun _ => rfl
  have hdir : ({ s with dir := s.dir.sessionPath } : Sys ε).Poised := hs.congr rfl rfl rfl
  have hdevice (id : String) : (s.setDeviceId id).Poised := hs.congr rfl rfl rfl
  unfold beginRequest
  cases task with
  | restoreFromDisk =>
    dsimp only
    split
    · exact hdir.conclude hr fun _ => rfl
    · exact hdir.conclude hr fun _ => rfl
    · exact hbegin hdir rfl _ _
  | authenticate session reauth => exact hbegin hs rfl session reauth
  | register name | link token => exact (hdevice _).await hr fun _ => rfl
  | search query | redeem invite username => exact hs.await hr nofun
  | _ => exact (hdevice _).await hr nofun

theorem poised_finishRequest (hs : s.Poised) {k : ℕ} {task : BackgroundTask} {requested : Bool}
    {session : Option Session} (result : TaskResult)
    (hr : s.tasks[k]? = some ⟨task, requested, session⟩) :
    (finishRequest k ⟨task, requested, session⟩ result ans s).Poised := by
  have hsaved (dir : ConfigDir) {e : InternalEvent} (he : e.isAuth) :
      (({ s with dir := dir } : Sys ε).conclude k e).Poised :=
    Poised.conclude (s := { s with dir := dir }) (hs.congr rfl rfl rfl) hr fun _ => he
  cases task with
  | restoreFromDisk =>
    cases result with
    | tokens userId accessToken refreshToken expiresAt =>
      cases session with
      | none => exact hs
      | some session =>
        unfold finishRequest
        dsimp only
        split <;> exact hsaved _ rfl
    | failed e | rejected e => exact hs.conclude hr fun _ => rfl
    | _ => exact hs
  | authenticate _ _ | register _ | link _ =>
    cases result with
    | tokens userId accessToken refreshToken expiresAt =>
      cases session with
      | none => exact hs
      | some session => exact hs.conclude hr fun _ => rfl
    | failed e | rejected e => exact hs.conclude hr fun _ => rfl
    | _ => exact hs
  | tokenRefresh _ _ _ | tokenRefreshNow _ _ => exact hs.conclude hr nofun
  | uploadPreKeys deviceId keys =>
    have herased : ({ s with tasks := s.tasks.eraseIdx k } : Sys ε).Poised :=
      hs.ended hr [] nofun rfl rfl (List.append_nil _).symm
    cases result <;> exact herased
  | search query =>
    cases result with
    | found userId => cases userId <;> exact hs.conclude hr nofun
    | failed e | rejected e => exact hs.conclude hr nofun
    | _ => exact hs
  | redeem invite username =>
    cases result with
    | accepted userId => exact hs.conclude hr nofun
    | failed e | rejected e => exact hs.conclude hr nofun
    | _ => exact hs

/-- What is queued besides leaves a screen that waits attended. -/
theorem Poised.enqueued (hs : s.Poised) (es : List Queued) (hscreen : s'.app.screen = s.app.screen)
    (htasks : s'.tasks = s.tasks) (hqueue : s'.queue = s.queue ++ es) : s'.Poised := by
  refine ⟨?_, fun r hr => hs.tasks r (htasks ▸ hr)⟩
  unfold Attended
  rw [hscreen, htasks, hqueue, List.map_append]
  refine fun hwaits => (hs.attended hwaits).imp_right fun h => h.imp_right ?_
  rintro ⟨e, he, hauth⟩
  exact ⟨e, List.mem_append_left _ he, hauth⟩

/-- The first screen is left, and the client goes on. -/
theorem startupCheck_leaves (ans : Answers ε) (s : Sys ε) :
    (App.startupCheck ans s).app.screen ≠ .startup ∧
      (App.startupCheck ans s).app.running = s.app.running := by
  unfold App.startupCheck
  dsimp only
  split <;> refine ⟨?_, rfl⟩ <;> rintro ⟨⟩

theorem poised_startupCheck (hs : s.Poised) : (App.startupCheck ans s).Poised := by
  unfold App.startupCheck
  dsimp only
  split
  · exact ⟨nofun, hs.tasks⟩
  · refine ⟨fun _ => .inr (.inl ⟨started .restoreFromDisk, ?_, rfl⟩), ?_⟩
    · exact List.mem_append_right _ List.mem_cons_self
    · exact List.forall_mem_append.mpr ⟨hs.tasks, List.forall_mem_singleton.mpr nofun⟩
  · exact ⟨nofun, hs.tasks⟩

/-- Every step keeps the screens that wait attended. -/
theorem poised_step (hs : s.Poised) {a : Label ε} (h : step E s a = some s') : s'.Poised := by
  cases stepped h with
  | startup => exact poised_startupCheck hs
  | @key key ans => exact poised_handle hs (.key key) (App.begins_handleEvent E ans key s)
  | @internal ans q queue _ hqueue =>
    cases hauth : q.event.isAuth with
    | true =>
      refine ⟨fun hwaits => ?_, Returns.handle (s := { s with queue := queue }) hs.tasks
        (.event q.event q.gone)⟩
      rw [App.handleInternal_leads E ans hauth] at hwaits
      cases hwaits
    | false =>
      have hpopped : ({ s with queue := queue } : Sys ε).Poised := by
        refine ⟨fun hwaits => (hs.attended hwaits).imp_right fun h => h.imp_right ?_, hs.tasks⟩
        rw [hqueue]
        rintro ⟨e, he, hauth'⟩
        obtain rfl | he := List.mem_cons.mp he
        · cases hauth.symm.trans hauth'
        · exact ⟨e, he, hauth'⟩
      refine poised_handle hpopped (.event q.event q.gone) ?_
      obtain ⟨hsame | hmain, -⟩ := App.calm_handleInternal E ans hauth q.gone
        { s with queue := queue }
      · exact .of_eq hsame
      · exact .shows (congrArg Screen.waits hmain)
  | tick | registrationStep => exact hs.enqueued _ rfl rfl rfl
  | request hr => exact poised_beginRequest hs hr _
  | finish hr => exact poised_finishRequest hs _ hr
  | worker | relay | take | subTask => exact hs.enqueued _ rfl rfl rfl
  | orchestrator hp hs' =>
    obtain ⟨⟨program, world⟩, -, rfl⟩ := Option.map_eq_some_iff.mp hs'
    exact hs.enqueued _ rfl rfl rfl

/-! ### Runs -/

theorem poised_start (cfg : AppConfig) (dir : ConfigDir) (db : Storage) :
    (start ε cfg dir db).Poised := ⟨fun _ => .inl rfl, List.forall_mem_nil _⟩

theorem poised_stepOrRestart {l : VaultLabel ε} (hs : s.Poised)
    (h : stepOrRestart E s l = some s') : s'.Poised := by
  cases l with
  | act a => exact poised_step hs h
  | restart cfg =>
    obtain rfl := Option.some.inj h
    exact poised_start cfg s.dir s.db

/-- The steps that a user waits for: the tasks send their requests and are answered, and the app
takes what is queued. -/
inductive Waits (ans : Answers ε) (fresh : Session) (result : TaskResult) : Label ε → Prop
  | startup : Waits ans fresh result (.startup ans)
  | internal : Waits ans fresh result (.internal ans)
  | request (k : ℕ) : Waits ans fresh result (.request k fresh ans)
  | finish (k : ℕ) : Waits ans fresh result (.finish k result ans)

variable (E) in
/-- The user only has to wait to come to a screen that takes keys. -/
def LeadsOut (ans : Answers ε) (fresh : Session) (result : TaskResult) (s : Sys ε) : Prop :=
  ∃ as s', (∀ a ∈ as, Waits ans fresh result a) ∧ Run.after (step E) s as = some s' ∧
    s'.app.screen.waits = false

variable {fresh : Session} {result : TaskResult}

theorem LeadsOut.of_shows (h : s.app.screen.waits = false) : s.LeadsOut E ans fresh result :=
  ⟨[], s, List.forall_mem_nil _, rfl, h⟩

theorem LeadsOut.of_step {a : Label ε} (ha : Waits ans fresh result a) (h : step E s a = some s')
    (hs' : s'.LeadsOut E ans fresh result) : s.LeadsOut E ans fresh result := by
  obtain ⟨as, t, has, hrun, hshows⟩ := hs'
  refine ⟨a :: as, t, List.forall_mem_cons.mpr ⟨ha, has⟩, ?_, hshows⟩
  rw [Run.after, h]
  exact hrun

/-- Taking what is queued leads to the answer of an authentication, and that leads out. -/
theorem leadsOut_of_queued (hrunning : s.app.running = true) {es : List InternalEvent}
    (hes : s.queue.map Queued.event = es) (hauth : ∃ e ∈ es, e.isAuth) :
    s.LeadsOut E ans fresh result := by
  induction es generalizing s with
  | nil =>
    obtain ⟨e, he, -⟩ := hauth
    cases he
  | cons e es ih =>
    obtain ⟨q, queue, hqueue, rfl, hrest⟩ := List.map_eq_cons_iff.mp hes
    have hstep : step E s (.internal ans) =
        some (App.handleInternal E ans q.event q.gone { s with queue := queue }) := by
      rw [step, if_pos hrunning, hqueue]
    refine .of_step .internal hstep ?_
    cases hevent : q.event.isAuth with
    | true => exact .of_shows (App.handleInternal_leads E ans hevent q.gone _)
    | false =>
      have hcalm := App.calm_handleInternal E ans hevent q.gone { s with queue := queue }
      refine ih (hcalm.2.trans hrunning) ?_ ?_
      · exact (events_handle E ans { s with queue := queue } (.event q.event q.gone)).trans hrest
      · obtain ⟨e, he, heauth⟩ := hauth
        obtain rfl | he := List.mem_cons.mp he
        · cases hevent.symm.trans heauth
        · exact ⟨e, he, heauth⟩

theorem conclude_isAuth (s : Sys ε) (k : ℕ) {e : InternalEvent} (he : e.isAuth) :
    ∃ e' ∈ (s.conclude k e).queue.map Queued.event, e'.isAuth := by
  refine ⟨e, ?_, he⟩
  show e ∈ (s.queue ++ [(⟨e, false⟩ : Queued)]).map Queued.event
  simp

/-- A task that authenticates sends its request, or gives up at once. -/
theorem beginRequest_isAuth (ans : Answers ε) (fresh : Session) {k : ℕ} {task : BackgroundTask}
    {old : Option Session} (hr : s.tasks[k]? = some ⟨task, false, old⟩)
    (htask : task.authenticates) :
    (∃ e ∈ (beginRequest E k task fresh ans s).queue.map Queued.event, e.isAuth) ∨
      ∃ session, (beginRequest E k task fresh ans s).tasks[k]? =
        some ⟨task, true, some session⟩ := by
  have hawait (t : Sys ε) (htasks : t.tasks = s.tasks) (session : Session) :
      (t.await k (some session)).tasks[k]? = some ⟨task, true, some session⟩ := by
    show (t.tasks.modify k _)[k]? = _
    rw [htasks, List.getElem?_modify, hr]
    simp
  have hbegin (t : Sys ε) (htasks : t.tasks = s.tasks) (session : Session) (reauth : Bool) :
      (∃ e ∈ (beginAuthenticate E k session reauth t).queue.map Queued.event, e.isAuth) ∨
        ∃ session', (beginAuthenticate E k session reauth t).tasks[k]? =
          some ⟨task, true, some session'⟩ := by
    unfold beginAuthenticate
    split
    · exact .inl (conclude_isAuth t k rfl)
    · exact .inr ⟨session, hawait (t.setDeviceId _) htasks session⟩
  cases task with
  | restoreFromDisk =>
    unfold beginRequest
    dsimp only
    split
    · exact .inl (conclude_isAuth _ k rfl)
    · exact .inl (conclude_isAuth _ k rfl)
    · exact hbegin { s with dir := s.dir.sessionPath } rfl _ _
  | authenticate session reauth => exact hbegin s rfl session reauth
  | register name | link token => exact .inr ⟨fresh, hawait (s.setDeviceId _) rfl fresh⟩
  | _ => cases htask

/-- Whatever the server answers, the answer is queued. -/
theorem finishRequest_isAuth {k : ℕ} {task : BackgroundTask} (htask : task.authenticates)
    (hresult : result.answersAuth) (session : Session) (s : Sys ε) :
    ∃ e ∈ (finishRequest k ⟨task, true, some session⟩ result ans s).queue.map Queued.event,
      e.isAuth := by
  cases task with
  | restoreFromDisk =>
    cases result with
    | tokens userId accessToken refreshToken expiresAt =>
      unfold finishRequest
      dsimp only
      split <;> exact conclude_isAuth _ k rfl
    | failed e | rejected e => exact conclude_isAuth s k rfl
    | _ => cases hresult
  | authenticate _ _ | register _ | link _ =>
    cases result with
    | tokens userId accessToken refreshToken expiresAt => exact conclude_isAuth s k rfl
    | failed e | rejected e => exact conclude_isAuth s k rfl
    | _ => cases hresult
  | _ => cases htask

/-- An authentication that is under way, or its answer, leads out. -/
theorem leadsOut_of_attended (hresult : result.answersAuth) (hs : s.Returns) (h : s.Attended)
    (hrunning : s.app.running = true) : s.LeadsOut E ans fresh result := by
  obtain ⟨⟨task, requested, old⟩, hr, htask⟩ | hqueued := h
  · obtain ⟨k, hk⟩ := List.mem_iff_getElem?.mp hr
    have hfinish {t : Sys ε} {session : Session} (happ : t.app = s.app)
        (ht : t.tasks[k]? = some ⟨task, true, some session⟩) : t.LeadsOut E ans fresh result := by
      have hstep : step E t (.finish k result ans) =
          some (finishRequest k ⟨task, true, some session⟩ result ans t) := by rw [step, ht]
      refine .of_step (.finish k) hstep (leadsOut_of_queued ?_ rfl ?_)
      · rw [app_of_beside rfl hstep, happ]
        exact hrunning
      · exact finishRequest_isAuth htask hresult session t
    cases requested with
    | true =>
      obtain ⟨session, rfl⟩ := Option.isSome_iff_exists.mp (hs _ hr htask rfl)
      exact hfinish rfl hk
    | false =>
      have hstep : step E s (.request k fresh ans) = some (beginRequest E k task fresh ans s) := by
        rw [step, hk]
      have happ := app_of_beside rfl hstep
      refine .of_step (.request k) hstep ?_
      obtain hqueued | ⟨session, ht⟩ := beginRequest_isAuth (E := E) ans fresh hk htask
      · exact leadsOut_of_queued (by rw [happ]; exact hrunning) rfl hqueued
      · exact hfinish happ ht
  · exact leadsOut_of_queued hrunning rfl hqueued

/-- **The client never gets stuck.** Through any run and any restarts, a screen that takes no key is
the first one, or an authentication is under way, or its answer is queued. And whatever keys are
generated, whatever the disk and the database do and whatever the server answers, the tasks that are
under way and the events that are queued lead to a screen that takes keys. -/
theorem never_stuck (E : AppExternals ε) (cfg : AppConfig) (dir : ConfigDir) (db : Storage)
    {s : Sys ε} {ls : List (VaultLabel ε)}
    (h : Run.after (stepOrRestart E) (start ε cfg dir db) ls = some s)
    (hwaits : s.app.screen.waits) : (s.app.screen = .startup ∨ s.Attended) ∧ (s.app.running = true →
      ∀ (ans : Answers ε) (fresh : Session) (result : TaskResult), result.answersAuth →
        s.LeadsOut E ans fresh result) := by
  have hs : s.Poised :=
    Run.invariant (fun _ _ _ => poised_stepOrRestart) (poised_start cfg dir db) h
  refine ⟨hs.attended hwaits, fun hrunning ans fresh result hresult => ?_⟩
  obtain hstartup | hattended := hs.attended hwaits
  · have hstep : step E s (.startup ans) = some (App.startupCheck ans s) := by
      rw [step, if_pos hstartup]
    have hchecked : (App.startupCheck ans s).Poised := poised_startupCheck hs
    obtain ⟨hleft, hkept⟩ := startupCheck_leaves ans s
    refine .of_step .startup hstep ?_
    cases hwaits' : (App.startupCheck ans s).app.screen.waits with
    | false => exact .of_shows hwaits'
    | true =>
      exact leadsOut_of_attended hresult hchecked.tasks
        ((hchecked.attended hwaits').resolve_left hleft) (hkept.trans hrunning)
  · exact leadsOut_of_attended hresult hs.tasks hattended hrunning

/-- A user who registers, and whose server does not answer. -/
theorem never_stuck_registering :
    (Run.ending (stepOrRestart .quiet) Sys.fresh ((registers.take 2).map .act)).app.screen =
        .registering ∧
      (Run.ending (stepOrRestart .quiet) Sys.fresh ((registers.take 2).map .act)).LeadsOut .quiet
        .quiet .zeros (.failed "transport: no route") := by
  have hscreen : (Run.ending (stepOrRestart .quiet) Sys.fresh
      ((registers.take 2).map .act)).app.screen = .registering := by decide +kernel
  have hrun : Run.after (stepOrRestart .quiet) Sys.fresh ((registers.take 2).map .act) =
      some (Run.ending (stepOrRestart .quiet) Sys.fresh ((registers.take 2).map .act)) :=
    Run.after_ending_nil (by decide +kernel)
  exact ⟨hscreen, (never_stuck .quiet _ _ _ hrun (congrArg Screen.waits hscreen)).2
    (by decide +kernel) .quiet .zeros (.failed "transport: no route") rfl⟩

end Sys

import ConstructTui.App.Acts

/-!
# Restoring a session

A session kept in clear is restored right after the start: one task reads the file, signs in, writes
the file and tells the app. Nothing else can happen until it has ended.

## Main definitions

* `Sys.Early`: the restore may still be under way.
* `Sys.EarlyStep`: what the steps until its end do.

## Main results

* `Sys.Early.next`: every step is such a step.
-/

variable {ε : Type}

open Account

theorem ConfigDir.sessionPath_sessionPath (d : ConfigDir) :
    d.sessionPath.sessionPath = d.sessionPath := by
  obtain ⟨enc, legacy, writes⟩ := d
  cases enc <;> cases legacy <;> rfl

theorem ConfigDir.loadSession_sessionPath (d : ConfigDir) :
    d.sessionPath.loadSession = d.loadSession := by
  unfold loadSession
  rw [sessionPath_sessionPath]

/-- A session that is read has been in the file. -/
theorem ConfigDir.loadSession_of_read {d : ConfigDir} {readable : Bool} {error : String}
    {session : Session}
    (h : (if readable then d.loadSession else .error error) = .ok (some session)) :
    d.loadSession = .ok (some session) := by
  cases readable with
  | false => cases h
  | true => exact h

/-- A session written in clear can be loaded. -/
theorem ConfigDir.loadSession_saved (session : Session) (d : ConfigDir) :
    (d.saveFile (.plaintext session) .saved).2.loadSession = .ok (some session) := rfl

/-- How far the restore has come: it has not begun, the task is under way, or its event waits. -/
inductive Sys.Stage (s : Sys ε) : Prop
  | starting (hscreen : s.app.screen = .startup) (htasks : s.tasks = []) (hqueue : s.queue = [])
  | restoring (r : Running) (hscreen : s.app.screen = .connecting "Restoring session…")
      (htasks : s.tasks = [r]) (htask : r.task = .restoreFromDisk)
      (hloaded : r.session.isSome → ∃ session, s.dir.loadSession = .ok (some session))
      (hqueue : s.queue = [])
  | restored (m : AuthSuccess) (hscreen : s.app.screen = .connecting "Restoring session…")
      (htasks : s.tasks = []) (hsave : m.pendingSave = none)
      (hloaded : s.dir.loadSession = .ok (some m.fullSession))
      (hqueue : s.queue = [⟨.auth (.success m), false⟩])

/-- A session kept in clear may still be restored. -/
structure Sys.Early (s : Sys ε) : Prop where
  creds : s.app.currentSession = none ∧ s.app.pendingSession = none ∧ s.app.sessionKey = none
  idle : s.app.ticking = false ∧ s.pipelines = []
  stage : s.Stage

/-- What a restore does to the session file. -/
def ConfigDir.Restored (d d' : ConfigDir) : Prop :=
  d' = d ∨ d' = d.sessionPath ∨ ∃ session updated outcome,
    d.loadSession = .ok (some session) ∧ d' = (d.saveFile (.plaintext updated) outcome).2

/-- The steps until the restore is over. -/
inductive Sys.EarlyStep (s : Sys ε) (a : Label ε) (s' : Sys ε) : Prop
  | stays (h : s'.Early) (hdir : s.dir.Restored s'.dir)
  | leaves (hlate : s'.account.Late)
      (hcreds : s'.app.currentSession = none ∧ s'.app.pendingSession = none ∧
        s'.app.sessionKey = none)
      (hscreen : s'.app.screen.signedIn = false) (htasks : s'.tasks = [])
      (hevents : ∀ e ∈ s'.account.events, e.bringsTokens = false)
      (hdir : s.dir.Restored s'.dir)
  | restores (ans : Answers ε) (m : AuthSuccess) (extra : List Running) (ha : a = .internal ans)
      (hqueue : s.queue = [⟨.auth (.success m), false⟩]) (hsave : m.pendingSave = none)
      (hloaded : s.dir.loadSession = .ok (some m.fullSession))
      (hextra : ∀ r ∈ extra, r.task.plain)
      (haccount : s'.account = { s.account with
        screen := .main
        currentSession := some m.fullSession
        tasks := extra
        events := [] })

namespace Sys

variable {E : AppExternals ε} {ans : Answers ε}

theorem early_start (cfg : AppConfig) (dir : ConfigDir) (db : Storage) :
    (start ε cfg dir db).Early := ⟨⟨rfl, rfl, rfl⟩, ⟨rfl, rfl⟩, .starting rfl rfl rfl⟩

theorem Stage.screen {s : Sys ε} (h : s.Stage) :
    s.app.screen = .startup ∨ s.app.screen = .connecting "Restoring session…" := by
  cases h with
  | starting hscreen => exact .inl hscreen
  | restoring _ hscreen => exact .inr hscreen
  | restored _ hscreen => exact .inr hscreen

theorem Stage.quit {s : Sys ε} (h : s.Stage) :
    (s.modApp fun a => { a with running := false }).Stage := by
  cases h with
  | starting hscreen htasks hqueue => exact .starting hscreen htasks hqueue
  | restoring r hscreen htasks htask hloaded hqueue =>
    exact .restoring r hscreen htasks htask hloaded hqueue
  | restored m hscreen htasks hsave hloaded hqueue =>
    exact .restored m hscreen htasks hsave hloaded hqueue

variable (E ans) in
/-- No key does more than quit. -/
theorem Early.key {s : Sys ε} (h : s.Early) (key : KeyEvent) :
    (App.handleEvent E ans key s).Early ∧ (App.handleEvent E ans key s).dir = s.dir := by
  unfold App.handleEvent
  split
  · exact ⟨h, rfl⟩
  · split
    · exact ⟨⟨h.creds, h.idle, h.stage.quit⟩, rfl⟩
    · obtain hs | hs := h.stage.screen
      · rw [hs]
        exact ⟨h, rfl⟩
      · rw [hs]
        exact ⟨h, rfl⟩

/-- The first screen depends on the session file. -/
theorem Early.startup {s : Sys ε} (h : s.Early) (hscreen : s.app.screen = .startup) (a : Label ε) :
    s.EarlyStep a (App.startupCheck ans s) := by
  have hdir : s.dir.Restored s.dir.sessionPath := .inr (.inl rfl)
  cases h.stage with
  | starting _ htasks hqueue =>
    have hempty (e : InternalEvent) : e ∉ s.queue.map Queued.event := by simp [hqueue]
    have hleaves (screen : Screen) (hsigned : screen.signedIn = false) (hnew : screen ≠ .startup) :
        s.EarlyStep a ({ s with dir := s.dir.sessionPath }.setScreen screen) := by
      refine .leaves ⟨fun r hr => ?_, fun m hm => absurd hm (hempty _), hnew⟩ h.creds hsigned htasks
        (fun e he => absurd he (hempty e)) hdir
      have hr' : r ∈ s.tasks := hr
      rw [htasks] at hr'
      cases hr'
    unfold App.startupCheck
    dsimp only
    split
    · exact hleaves .unlock rfl nofun
    · refine .stays ⟨h.creds, h.idle, .restoring ⟨.restoreFromDisk, false, none⟩ rfl ?_ rfl nofun
        hqueue⟩ hdir
      show s.tasks ++ _ = _
      rw [htasks]
      rfl
    · exact hleaves .onboarding rfl nofun
  | restoring _ hs => cases hscreen.symm.trans hs
  | restored _ hs => cases hscreen.symm.trans hs

/-- The restore task fails. -/
theorem Early.fails {s : Sys ε} (h : s.Early) {r : Running} {msg : String}
    (hscreen : s.app.screen = .connecting "Restoring session…") (htasks : s.tasks = [r])
    (hqueue : s.queue = []) {dir : ConfigDir} (hdir : s.dir.Restored dir) (a : Label ε) :
    s.EarlyStep a ({ s with dir := dir }.conclude 0 (authFailure false msg)) := by
  have hevents :
      (({ s with dir := dir } : Sys ε).conclude 0 (authFailure false msg)).account.events =
      [authFailure false msg] := by
    show (s.queue ++ [_]).map Queued.event = _
    rw [hqueue]
    rfl
  have hempty : (({ s with dir := dir } : Sys ε).conclude 0 (authFailure false msg)).tasks =
      [] := by
    show s.tasks.eraseIdx 0 = _
    rw [htasks]
    rfl
  refine .leaves ⟨?_, ?_, ?_⟩ h.creds ?_ hempty ?_ hdir
  · show ∀ r ∈ (({ s with dir := dir } : Sys ε).conclude 0 (authFailure false msg)).tasks,
      r.task ≠ .restoreFromDisk
    rw [hempty]
    exact List.forall_mem_nil _
  · intro m hm
    rw [hevents] at hm
    cases List.mem_singleton.mp hm
  · show s.app.screen ≠ .startup
    rw [hscreen]
    exact nofun
  · show s.app.screen.signedIn = false
    rw [hscreen]
    rfl
  · rw [hevents]
    exact List.forall_mem_singleton.mpr rfl

/-- The only task there can be is the one that restores the session. -/
theorem Stage.eq_of_task {s : Sys ε} (h : s.Stage) {k : ℕ} {r : Running}
    (hr : s.tasks[k]? = some r) : k = 0 ∧ s.app.screen = .connecting "Restoring session…" ∧
      s.tasks = [r] ∧ r.task = .restoreFromDisk ∧
      (r.session.isSome → ∃ session, s.dir.loadSession = .ok (some session)) ∧ s.queue = [] := by
  cases h with
  | starting _ htasks hqueue =>
    rw [htasks] at hr
    cases hr
  | restored m _ htasks =>
    rw [htasks] at hr
    cases hr
  | restoring r' hscreen htasks htask hloaded hqueue =>
    rw [htasks, List.getElem?_singleton, Option.ite_none_right_eq_some] at hr
    obtain ⟨hk, hr⟩ := hr
    obtain rfl := Option.some.inj hr
    exact ⟨hk, hscreen, htasks, htask, hloaded, hqueue⟩

theorem Early.request {s : Sys ε} (h : s.Early) {k : ℕ} {task : BackgroundTask}
    {session : Option Session} (hr : s.tasks[k]? = some ⟨task, false, session⟩) (fresh : Session)
    (a : Label ε) : s.EarlyStep a (beginRequest E k task fresh ans s) := by
  have hdir : s.dir.Restored s.dir.sessionPath := .inr (.inl rfl)
  obtain ⟨rfl, hscreen, htasks, htask, -, hqueue⟩ := h.stage.eq_of_task hr
  obtain rfl : task = .restoreFromDisk := htask
  unfold beginRequest
  dsimp only
  split
  · exact h.fails hscreen htasks hqueue hdir a
  · exact h.fails hscreen htasks hqueue hdir a
  · next session' hload =>
    unfold beginAuthenticate
    split
    · exact h.fails hscreen htasks hqueue hdir a
    · have hload' := ConfigDir.loadSession_of_read hload
      refine .stays ⟨h.creds, h.idle, .restoring ⟨.restoreFromDisk, true, some session'⟩ hscreen ?_
        rfl (fun _ => ⟨session', ?_⟩) hqueue⟩ hdir
      · show s.tasks.modify 0 _ = _
        rw [htasks]
        rfl
      · exact (ConfigDir.loadSession_sessionPath s.dir).trans hload'

theorem Early.finish {s : Sys ε} (h : s.Early) {k : ℕ} {task : BackgroundTask}
    {session : Option Session} (hr : s.tasks[k]? = some ⟨task, true, session⟩) (result : TaskResult)
    (a : Label ε) : s.EarlyStep a (finishRequest k ⟨task, true, session⟩ result ans s) := by
  have hsame : s.dir.Restored s.dir := .inl rfl
  obtain ⟨rfl, hscreen, htasks, htask, hloaded, hqueue⟩ := h.stage.eq_of_task hr
  obtain rfl : task = .restoreFromDisk := htask
  cases result with
  | tokens userId accessToken refreshToken expiresAt =>
    cases session with
    | none => exact .stays h hsame
    | some session =>
      let updated := session.withTokens accessToken refreshToken expiresAt
      obtain ⟨session', hsession'⟩ := hloaded rfl
      have hdir : s.dir.Restored (s.dir.saveFile (.plaintext updated) ans.save).2 :=
        .inr (.inr ⟨session', updated, ans.save, hsession', rfl⟩)
      unfold finishRequest
      dsimp only
      by_cases hsave : ans.save = .saved
      · rw [ConfigDir.saveFile_eq_ok hsave]
        refine .stays ⟨h.creds, h.idle, .restored ⟨userId, updated.deviceId, updated.accessToken,
          updated, none⟩ hscreen ?_ rfl ?_ ?_⟩ hdir
        · show s.tasks.eraseIdx 0 = _
          rw [htasks]
          rfl
        · show (s.dir.saveFile (.plaintext updated) ans.save).2.loadSession = _
          rw [hsave]
          exact ConfigDir.loadSession_saved updated s.dir
        · show s.queue ++ _ = _
          rw [hqueue]
          rfl
      · obtain ⟨e, he⟩ := ConfigDir.saveFile_eq_error (.plaintext updated) s.dir hsave
        rw [he]
        exact h.fails hscreen htasks hqueue hdir a
  | failed e => exact h.fails hscreen htasks hqueue hsame a
  | rejected e => exact h.fails hscreen htasks hqueue hsame a
  | _ => exact .stays h hsame

variable (E ans) in
/-- The event of the restored session is taken. -/
theorem Early.internal {s : Sys ε} (h : s.Early) {q : Queued} {queue : List Queued}
    (hqueue : s.queue = q :: queue) : ∃ (m : AuthSuccess) (extra : List Running),
      s.queue = [⟨.auth (.success m), false⟩] ∧ m.pendingSave = none ∧
        s.dir.loadSession = .ok (some m.fullSession) ∧ (∀ r ∈ extra, r.task.plain) ∧
        (App.handleInternal E ans q.event q.gone { s with queue := queue }).account =
          { s.account with
          screen := .main
          currentSession := some m.fullSession
          tasks := extra
          events := [] } := by
  cases h.stage with
  | starting _ _ hnone => cases hqueue.symm.trans hnone
  | restoring _ _ _ _ _ hnone => cases hqueue.symm.trans hnone
  | restored m hscreen htasks hsave hloaded hq =>
    obtain ⟨rfl, rfl⟩ : _ ∧ _ := List.cons.inj (hqueue.symm.trans hq)
    obtain ⟨extra, hextra, heq⟩ := App.account_startOrchestrator_main E ans m.fullSession m.userId
      m.deviceId (App.adoptSession m { s with queue := [] })
    refine ⟨m, extra, hq, hsave, hloaded, hextra, ?_⟩
    have hnot : ¬s.app.screen = .registering := by
      rw [hscreen]
      exact nofun
    show (App.handleInternal E ans (.auth (.success m)) false { s with queue := [] }).account = _
    unfold App.handleInternal
    dsimp only
    rw [if_neg hnot, handleAuthMsg_restored hsave]
    refine heq.trans ?_
    show { s.account with
      screen := .main, currentSession := some m.fullSession, tasks := s.tasks ++ extra,
      events := [] } = _
    rw [htasks]
    rfl

/-- Until the restore is over, nothing else happens. -/
theorem Early.next {s s' : Sys ε} {a : Label ε} (h : s.Early) (hs : step E s a = some s') :
    s.EarlyStep a s' := by
  have hpipeline {i : ℕ} {p : Pipeline ε} (hp : s.pipelines[i]? = some p) : False := by
    rw [h.idle.2] at hp
    cases hp
  cases stepped hs with
  | startup hscreen => exact h.startup hscreen _
  | @key key ans =>
    obtain ⟨hkey, hdir⟩ := h.key E ans key
    exact .stays hkey (.inl hdir)
  | @internal ans q queue _ hqueue =>
    obtain ⟨m, extra, hq, hsave, hloaded, hextra, heq⟩ := h.internal E ans hqueue
    exact .restores ans m extra rfl hq hsave hloaded hextra heq
  | tick hticking => cases hticking.symm.trans h.idle.1
  | registrationStep hr => cases (h.stage.eq_of_task hr).2.2.2.1
  | request hr => exact h.request hr _ _
  | finish hr => exact h.finish hr _ _
  | worker hp | relay hp | take hp | orchestrator hp | subTask hp => exact (hpipeline hp).elim

end Sys

import ConstructTui.App.Account

/-!
# What a step does to the credentials

The ways a step can change the credentials, listed once; every invariant about them is checked
against that list. It holds once nothing is being restored from a session kept in clear.

## Main definitions

* `Sys.Acts`: what a step does to the account.
* `Account.Late`: nothing is being restored.

## Main results

* `Sys.acts`: every step is of one of the kinds.
* `Sys.Acts.late`: nothing will be restored from then on.
* `Sys.Acts.signedIn`: the chats are the only way in.
-/

variable {ε : Type}

open Account

/-- The task that refreshes a session when its tokens expire. -/
def Session.refreshLoop (session : Session) : Running :=
  ⟨.tokenRefresh session.deviceId session.refreshToken session.expiresAt, false, none⟩

/-- The label lets a background task go on. -/
def Label.ofTask : Label ε → Bool
  | .request _ _ _ | .finish _ _ _ => true
  | _ => false

/-- What a task can tell the app at its end. -/
inductive Ending (a : Label ε) (r : Running) : List InternalEvent → Prop
  | plain (es : List InternalEvent) (h : ∀ e ∈ es, e.bringsTokens = false) : Ending a r es
  | success (m : AuthSuccess) (h : m.pendingSave = some m.fullSession) :
      Ending a r [.auth (.success m)]
  | refreshed {k : ℕ} {userId accessToken newRefresh refreshToken : String} {expiresAt : ℤ}
      {ans : Answers ε} (hr : r.task.refreshToken = some refreshToken)
      (ha : a = .finish k (.tokens userId accessToken newRefresh expiresAt) ans) :
      Ending a r [Sys.refreshEvent refreshToken (.tokens userId accessToken newRefresh expiresAt)]

/-- What a step does to the account once nothing is being restored. -/
inductive Sys.Acts (E : AppExternals ε) (s : Sys ε) : Label ε → Account → Prop
  | quiet {a : Label ε} {B : Account} (h : s.account.Quiet B) : Acts E s a B
  | saved {ans : Answers ε} {m : AuthSuccess} {rest : List InternalEvent} {extra : List Running}
      (hevents : s.account.events = .auth (.success m) :: rest)
      (hkey : s.app.sessionKey.isSome ∨ s.app.noEncrypt) (hsave : ans.save = .saved)
      (hextra : ∀ r ∈ extra, r.task.plain) :
      Acts E s (.internal ans) { s.account with
        screen := .main
        currentSession := some m.fullSession
        dir := (s.dir.saveFile (ConfigDir.sessionFile m.fullSession s.app.sessionKey) ans.save).2
        tasks := s.tasks ++ m.fullSession.refreshLoop :: extra
        events := rest }
  | unsaved {ans : Answers ε} {m : AuthSuccess} {rest : List InternalEvent} (e : String)
      (hevents : s.account.events = .auth (.success m) :: rest)
      (hkey : s.app.sessionKey.isSome ∨ s.app.noEncrypt) (hsave : ans.save ≠ .saved) :
      Acts E s (.internal ans) { s.account with
        screen := .authError e
        currentSession := some m.fullSession
        dir := (s.dir.saveFile (ConfigDir.sessionFile m.fullSession s.app.sessionKey) ans.save).2
        tasks := s.tasks ++ [m.fullSession.refreshLoop]
        events := rest }
  | waits {ans : Answers ε} {m : AuthSuccess} {rest : List InternalEvent}
      (hevents : s.account.events = .auth (.success m) :: rest) (hkey : s.app.sessionKey = none)
      (hencrypt : s.app.noEncrypt = false) :
      Acts E s (.internal ans) { s.account with
        screen := .setPassphrase
        currentSession := some m.fullSession
        pendingSession := some m.fullSession
        tasks := s.tasks ++ [m.fullSession.refreshLoop]
        events := rest }
  | refreshed {ans : Answers ε} {accessToken refreshToken : String} {expiresAt : ℤ}
      {rest : List InternalEvent} {session updated : Session}
      (hevents : s.account.events =
        .tokenRefresh (.refreshed accessToken refreshToken expiresAt) :: rest)
      (hcurrent : s.app.currentSession = some session)
      (hupdated : updated = session.withTokens accessToken refreshToken expiresAt) :
      Acts E s (.internal ans) { s.account with
        currentSession := some updated
        dir := if s.app.sessionKey.isSome || s.app.noEncrypt
          then (s.dir.saveFile (ConfigDir.sessionFile updated s.app.sessionKey) ans.save).2
          else s.dir
        tasks := s.tasks ++ [updated.refreshLoop]
        events := rest }
  | wakes {ans : Answers ε} {rest : List InternalEvent} {session : Session}
      (hevents : s.account.events = .streamAuthRequired :: rest)
      (hcurrent : s.app.currentSession = some session) :
      Acts E s (.internal ans) { s.account with
        tasks := s.tasks ++
          [⟨.tokenRefreshNow session.deviceId session.refreshToken, false, none⟩]
        events := rest }
  | reauthenticates {ans : Answers ε} {e : String} {rest : List InternalEvent} {session : Session}
      (hevents : s.account.events = .tokenRefresh (.failedAuth e) :: rest)
      (hcurrent : s.app.currentSession = some session) :
      Acts E s (.internal ans) { s.account with
        tasks := s.tasks ++ [⟨.authenticate session true, false, none⟩]
        events := rest }
  | invited {ans : Answers ε} {userId username : String} {rest : List InternalEvent}
      (hevents : s.account.events = .inviteAccepted userId username :: rest) :
      Acts E s (.internal ans) { s.account with screen := .main, events := rest }
  | unlocked {key : KeyEvent} {ans : Answers ε} {passphrase : Bytes} {sk : SessionKey}
      {session : Session} (msg : String) (hscreen : s.app.screen = .unlock)
      (hopen : s.dir.openSessionKey E.deriveKeys passphrase = .ok (some sk))
      (hload : s.dir.loadSessionEncrypted sk = .ok (some session)) :
      Acts E s (.key key ans) { s.account with
        screen := .connecting msg
        sessionKey := some sk
        dir := s.dir.sessionPath
        tasks := s.tasks ++ [⟨.authenticate session false, false, none⟩] }
  | sealed {key : KeyEvent} {ans : Answers ε} {session : Session} {keys : DerivedKeys}
      {extra : List Running} (hscreen : s.app.screen = .setPassphrase)
      (hkey : key.isPress ∧ key.code = .enter)
      (htyped : s.app.unlockScreen.takePassphrase.1 ≠ [])
      (hpending : s.app.pendingSession = some session)
      (hkeys : E.deriveKeys s.app.unlockScreen.takePassphrase.1 ans.masterSalt = .ok keys)
      (hsave : ans.save = .saved) (hextra : ∀ r ∈ extra, r.task.plain) :
      Acts E s (.key key ans) { s.account with
        screen := .main
        sessionKey := some ⟨keys, ans.masterSalt⟩
        pendingSession := none
        dir := (s.dir.saveFile
          (ConfigDir.sessionFile session (some ⟨keys, ans.masterSalt⟩)) ans.save).2
        tasks := s.tasks ++ extra }
  | sealFailed {key : KeyEvent} {ans : Answers ε} {session : Session} {keys : DerivedKeys}
      (hscreen : s.app.screen = .setPassphrase) (hkey : key.isPress ∧ key.code = .enter)
      (htyped : s.app.unlockScreen.takePassphrase.1 ≠ [])
      (hpending : s.app.pendingSession = some session)
      (hkeys : E.deriveKeys s.app.unlockScreen.takePassphrase.1 ans.masterSalt = .ok keys)
      (hsave : ans.save ≠ .saved) :
      Acts E s (.key key ans) { s.account with
        dir := (s.dir.saveFile
          (ConfigDir.sessionFile session (some ⟨keys, ans.masterSalt⟩)) ans.save).2 }
  | loggedOut {key : KeyEvent} {ans : Answers ε} (h : LogsOut ans s (.key key)) :
      Acts E s (.key key ans) { s.account with
        screen := .onboarding
        currentSession := none
        pendingSession := none
        sessionKey := none
        dir := (s.dir.clearSession ans.clear).2 }
  | stuck {key : KeyEvent} {ans : Answers ε} (hscreen : s.app.screen = .settings)
      (hclear : (s.dir.clearSession ans.clear).1 ≠ .ok ()) :
      Acts E s (.key key ans) { s.account with dir := (s.dir.clearSession ans.clear).2 }
  | requested {k : ℕ} {fresh : Session} {ans : Answers ε} {task : BackgroundTask}
      {session : Option Session} (session' : Option Session)
      (hr : s.tasks[k]? = some ⟨task, false, session⟩) :
      Acts E s (.request k fresh ans) { s.account with
        tasks := s.tasks.modify k fun r => { r with requested := true, session := session' } }
  | ended {a : Label ε} {k : ℕ} {r : Running} {es : List InternalEvent}
      (hr : s.tasks[k]? = some r) (h : Ending a r es) :
      Acts E s a { s.account with
        tasks := s.tasks.eraseIdx k
        events := s.account.events ++ es }

/-- Nothing is being restored: every session that an authentication brings is saved first. -/
structure Account.Late (A : Account) : Prop where
  tasks : ∀ r ∈ A.tasks, r.task ≠ .restoreFromDisk
  events : ∀ m, .auth (.success m) ∈ A.events → m.pendingSave = some m.fullSession
  screen : A.screen ≠ .startup

/-! ### Keys -/

namespace Sys

variable {E : AppExternals ε} {ans : Answers ε}

theorem Acts.refl (s : Sys ε) (a : Label ε) : s.Acts E a s.account := .quiet (.refl _)

theorem acts_handleUnlock {s : Sys ε} (hscreen : s.app.screen = .unlock) (key : KeyEvent) :
    s.Acts E (.key key ans) (App.handleUnlock E ans key s).account := by
  have hpath : s.Acts E (.key key ans) { s.account with dir := s.dir.sessionPath } :=
    .quiet (.sessionPath s.account)
  unfold App.handleUnlock
  cases key.code with
  | enter =>
    dsimp only
    split
    · exact .refl s _
    · unfold App.unlock
      dsimp only
      split
      · exact hpath
      · split
        · next sk hopen =>
          split
          · next session hload => exact .unlocked _ hscreen hopen hload
          · exact hpath
          · exact hpath
        · exact hpath
        · exact hpath
  | _ => exact .refl s _

theorem acts_handleSetPassphrase {s : Sys ε} (hscreen : s.app.screen = .setPassphrase)
    {key : KeyEvent} (hpress : key.isPress) :
    s.Acts E (.key key ans) (App.handleSetPassphrase E ans key s).account := by
  unfold App.handleSetPassphrase
  cases hcode : key.code with
  | enter =>
    dsimp only
    split
    · exact .refl s _
    · next htyped =>
      have htyped' : s.app.unlockScreen.takePassphrase.1 ≠ [] := by simpa using htyped
      split
      · exact .refl s _
      · next session hpending =>
        cases hkeys : E.deriveKeys s.app.unlockScreen.takePassphrase.1 ans.masterSalt with
        | error e =>
          unfold App.protect
          rw [hkeys]
          exact .refl s _
        | ok keys =>
          by_cases hsave : ans.save = .saved
          · obtain ⟨extra, hextra, heq⟩ := App.account_protect E ans session (s := s.modApp
              fun a => { a with unlockScreen := s.app.unlockScreen.takePassphrase.2 }) hkeys hsave
            exact heq ▸ .sealed hscreen ⟨hpress, hcode⟩ htyped' hpending hkeys hsave hextra
          · have heq := App.account_protect_failed E ans session (s := s.modApp
              fun a => { a with unlockScreen := s.app.unlockScreen.takePassphrase.2 }) hkeys hsave
            exact heq ▸ .sealFailed hscreen ⟨hpress, hcode⟩ htyped' hpending hkeys hsave
  | _ => exact .refl s _

theorem acts_doLogout {s : Sys ε} (hscreen : s.app.screen = .settings) {key : KeyEvent}
    (h : (s.dir.clearSession ans.clear).1 = .ok () → LogsOut ans s (.key key)) :
    s.Acts E (.key key ans) (App.doLogout ans s).account := by
  unfold App.doLogout
  split
  · next e dir hdir =>
    have hdir' : dir = (s.dir.clearSession ans.clear).2 := (congrArg Prod.snd hdir).symm
    subst hdir'
    exact .stuck hscreen (by rw [hdir]; exact nofun)
  · next dir hdir =>
    have hdir' : dir = (s.dir.clearSession ans.clear).2 := (congrArg Prod.snd hdir).symm
    subst hdir'
    have hkeep := account_streamTrySend s s.app.streamTx ans.streamHasRoom .shutdown
    have hout := Acts.loggedOut (E := E) (h (congrArg Prod.fst hdir))
    rw [← hkeep] at hout
    exact hout

theorem acts_handleSettings {s : Sys ε} (hscreen : s.app.screen = .settings) {key : KeyEvent}
    (hpress : key.isPress) (hctrl : ¬(key.code = .char 'c' ∧ key.modifiers = .control)) :
    s.Acts E (.key key ans) (App.handleSettings E ans key s).account := by
  have hs : s.account.screen.signedIn := by
    show s.app.screen.signedIn = true
    rw [hscreen]
    rfl
  have hclear (hcode : key.code = .char 'l' ∨ key.code = .char 'L' ∨
      key.code = .enter ∧ s.app.settingsScreen.confirm = some .logout) :
      s.Acts E (.key key ans) (App.doLogout ans s).account :=
    acts_doLogout hscreen fun hclear => ⟨hscreen, hpress, hctrl, hcode, hclear⟩
  have hshow (screen : Screen) (h : screen.signedIn) {B : Account}
      (hB : B = { s.account with screen := screen }) : s.Acts E (.key key ans) B :=
    .quiet ((Shows.show (P := (· = screen)) screen rfl hB).quiet fun _ hP =>
      hP ▸ mayShow_signedIn hs h)
  have hsafety : s.Acts E (.key key ans) (App.openSafetyNumberScreen E ans s).account := by
    unfold App.openSafetyNumberScreen
    split
    · exact .refl s _
    · split
      · exact .refl s _
      · exact hshow .safetyNumber rfl rfl
  have hexport : s.Acts E (.key key ans) (App.exportIdentityKey ans s).account := by
    unfold App.exportIdentityKey
    split
    · exact .refl s _
    · split <;> exact .refl s _
  unfold App.handleSettings
  split
  · exact hshow .main rfl rfl
  · exact .refl s _
  · exact .refl s _
  · exact .refl s _
  · exact .refl s _
  · next hcode =>
    split
    · next action haction =>
      unfold App.settingsAction
      cases action with
      | back => exact hshow .main rfl rfl
      | logout => exact hclear (.inr (.inr ⟨hcode, haction⟩))
      | showSafetyNumber => exact hsafety
      | exportKeys => exact hexport
      | showMyQr => exact hshow .identityQr rfl rfl
    · exact .refl s _
  · next hcode => exact hclear (.inl hcode)
  · next hcode => exact hclear (.inr (.inl hcode))
  · exact hshow .identityQr rfl rfl
  · exact hshow .identityQr rfl rfl
  · exact hsafety
  · exact hsafety
  · exact .refl s _

theorem acts_handleEvent (s : Sys ε) (key : KeyEvent) :
    s.Acts E (.key key ans) (App.handleEvent E ans key s).account := by
  have hsigned {t : Sys ε} (hs : s.app.screen.signedIn)
      (h : Shows (Screen.signedIn ·) s.account t.account) : s.Acts E (.key key ans) t.account :=
    .quiet (h.quiet fun _ => mayShow_signedIn hs)
  have hentry {t : Sys ε} (h : Shows (Screen.entry ·) s.account t.account) :
      s.Acts E (.key key ans) t.account := .quiet (h.quiet fun _ => mayShow_entry)
  unfold App.handleEvent
  by_cases hpress : key.isPress = true
  · by_cases hctrl : key.code = .char 'c' ∧ key.modifiers = .control
    · simp only [hpress, hctrl]
      exact .refl s _
    · have hctrl' : (key.code = .char 'c' && key.modifiers = .control) = false := by
        simpa using hctrl
      simp only [hpress, hctrl', Bool.not_true, Bool.false_eq_true, if_false]
      cases hscreen : s.app.screen with
      | startup => exact .refl s _
      | connecting msg => exact .refl s _
      | registering => exact .refl s _
      | authError msg =>
        dsimp only
        split
        · next hkey =>
          refine .quiet ((Shows.show (P := (· = .unlock)) .unlock rfl rfl).quiet ?_)
          rintro _ rfl
          exact ⟨nofun, fun _ => .inr hkey, nofun⟩
        · exact hentry (.show .onboarding rfl rfl)
      | unlock => exact acts_handleUnlock hscreen key
      | setPassphrase => exact acts_handleSetPassphrase hscreen hpress
      | onboarding => exact hentry (App.shows_handleOnboarding hscreen key)
      | deviceLink => exact hentry (App.shows_handleDeviceLink hscreen key)
      | main => exact hsigned (by rw [hscreen]; rfl) (App.shows_handleMain ans hscreen key)
      | settings => exact acts_handleSettings hscreen hpress hctrl
      | contactSearch =>
        exact hsigned (by rw [hscreen]; rfl) (App.shows_handleContactSearch E ans hscreen key)
      | safetyNumber => exact hsigned (by rw [hscreen]; rfl) (.show .settings rfl rfl)
      | identityQr => exact hsigned (by rw [hscreen]; rfl) (.show .settings rfl rfl)
  · simp only [hpress]
    exact .refl s _

/-! ### Events -/

/-- A session is taken over and its tokens will be refreshed, before anything is saved. -/
theorem account_adopted {s u : Sys ε} (m : AuthSuccess) {rest : List InternalEvent}
    (hu : u.account = { s.account with events := rest }) :
    (App.startTokenRefresh m.fullSession (App.adoptSession m u)).account = { s.account with
      currentSession := some m.fullSession
      tasks := s.tasks ++ [m.fullSession.refreshLoop]
      events := rest } := by
  show { u.account with
    currentSession := some m.fullSession
    tasks := u.account.tasks ++ [m.fullSession.refreshLoop] } = _
  rw [hu]
  rfl

theorem handleAuthMsg_success {m : AuthSuccess} {session : Session}
    (hm : m.pendingSave = some session) (s : Sys ε) : App.handleAuthMsg E ans (.success m) s =
      App.saveAndEnter E ans m session (App.startTokenRefresh session (App.adoptSession m s)) := by
  unfold App.handleAuthMsg
  dsimp only
  rw [hm]

/-- A session restored from the file is there already. -/
theorem handleAuthMsg_restored {m : AuthSuccess} (hm : m.pendingSave = none) (s : Sys ε) :
    App.handleAuthMsg E ans (.success m) s =
      App.enterMain E ans m (App.adoptSession m s) := by
  unfold App.handleAuthMsg
  dsimp only
  rw [hm]

/-- A successful authentication, once its event has been taken. -/
theorem acts_success {s u : Sys ε} {m : AuthSuccess} {rest : List InternalEvent}
    (hevents : s.account.events = .auth (.success m) :: rest)
    (hu : u.account = { s.account with events := rest })
    (hm : m.pendingSave = some m.fullSession) :
    s.Acts E (.internal ans) (App.handleAuthMsg E ans (.success m) u).account := by
  rw [handleAuthMsg_success hm]
  have hv := account_adopted m hu
  generalize App.startTokenRefresh m.fullSession (App.adoptSession m u) = v at hv ⊢
  have hkey : v.app.sessionKey = s.app.sessionKey := congrArg Account.sessionKey hv
  have hencrypt : v.app.noEncrypt = s.app.noEncrypt := congrArg Account.noEncrypt hv
  have hdir : v.dir = s.dir := congrArg Account.dir hv
  have htasks : v.tasks = s.tasks ++ [m.fullSession.refreshLoop] := congrArg Account.tasks hv
  by_cases hsaves : (v.app.sessionKey.isSome || v.app.noEncrypt) = true
  · have hsaves' : s.app.sessionKey.isSome ∨ s.app.noEncrypt := by
      simpa [hkey, hencrypt] using hsaves
    by_cases hsave : ans.save = .saved
    · obtain ⟨extra, hextra, heq⟩ := App.account_saved E ans m m.fullSession
        hsaves hsave
      rw [heq, hv, hdir, hkey, htasks, ← List.append_cons]
      exact .saved hevents hsaves' hsave hextra
    · obtain ⟨e, heq⟩ := App.account_unsaved E ans m m.fullSession hsaves hsave
      rw [heq, hv, hdir, hkey]
      exact .unsaved e hevents hsaves' hsave
  · have hnone : s.app.sessionKey = none ∧ s.app.noEncrypt = false := by
      simpa [hkey, hencrypt] using hsaves
    rw [App.account_waits E ans hsaves, hv]
    exact .waits hevents hnone.1 hnone.2

theorem acts_handleTokenRefreshMsg {s u : Sys ε} {msg : TokenRefreshMsg}
    {rest : List InternalEvent} (hevents : s.account.events = .tokenRefresh msg :: rest)
    (hu : u.account = { s.account with events := rest }) :
    s.Acts E (.internal ans) (App.handleTokenRefreshMsg ans msg u).account := by
  have hsession : u.app.currentSession = s.app.currentSession :=
    congrArg Account.currentSession hu
  have hpopped {B : Account} (hB : B = u.account)
      (hdrop : (InternalEvent.tokenRefresh msg).bringsTokens → s.app.currentSession = none) :
      s.Acts E (.internal ans) B := by
    refine .quiet
      (Shows.popped (P := (· = s.app.screen)) (.of_eq rfl (hB.trans hu)) hevents hdrop ?_)
    rintro _ rfl
    exact mayShow_self s.account
  cases msg with
  | refreshed accessToken refreshToken expiresAt =>
    unfold App.handleTokenRefreshMsg
    dsimp only [modApp]
    split
    · next hcurrent => exact hpopped rfl fun _ => hsession ▸ hcurrent
    · next session hcurrent =>
      show s.Acts E _ (App.persistSessionBackground ans _ _).account
      rw [App.account_persistSessionBackground]
      show s.Acts E _ { u.account with
        currentSession := some (session.withTokens accessToken refreshToken expiresAt)
        dir := if u.account.sessionKey.isSome || u.account.noEncrypt
          then (u.account.dir.saveFile (ConfigDir.sessionFile
            (session.withTokens accessToken refreshToken expiresAt) u.account.sessionKey)
              ans.save).2
          else u.account.dir
        tasks := u.account.tasks ++
          [(session.withTokens accessToken refreshToken expiresAt).refreshLoop] }
      rw [hu]
      exact .refreshed hevents (hsession ▸ hcurrent) rfl
  | failedTransport e => exact hpopped rfl nofun
  | failedAuth e =>
    show s.Acts E _ (App.startDeviceReauth u).account
    unfold App.startDeviceReauth
    split
    · exact hpopped rfl nofun
    · next session hcurrent =>
      show s.Acts E _ { u.account with
        tasks := u.account.tasks ++ [⟨.authenticate session true, false, none⟩] }
      rw [hu]
      exact .reauthenticates hevents (hsession ▸ hcurrent)

/-- The checklist of a registration does not matter to the credentials. -/
theorem SameButChecklist.account {s t : Sys ε} (h : s.SameButChecklist t) :
    t.account = s.account := by
  obtain ⟨ticking, registration, rfl⟩ := h
  rfl

theorem acts_handleInternal {s : Sys ε} {q : Queued} {queue : List Queued}
    (hqueue : s.queue = q :: queue)
    (hlate : ∀ m, q.event = .auth (.success m) → m.pendingSave = some m.fullSession) :
    s.Acts E (.internal ans)
      (App.handleInternal E ans q.event q.gone { s with queue := queue }).account := by
  let u : Sys ε := { s with queue := queue }
  have hevents : s.account.events = q.event :: u.account.events := congrArg (List.map _) hqueue
  have hu : u.account = { s.account with events := u.account.events } := rfl
  have hpopped {B : Account} (hB : B = u.account)
      (hdrop : q.event.bringsTokens → s.app.currentSession = none) :
      s.Acts E (.internal ans) B := by
    refine .quiet (Shows.popped (P := (· = s.app.screen)) (.of_eq rfl hB) hevents hdrop ?_)
    rintro _ rfl
    exact mayShow_self s.account
  obtain ⟨event, gone⟩ := q
  cases event with
  | auth msg =>
    obtain ⟨v, hsame, heq⟩ := App.handleInternal_auth E ans msg gone u
    have hv : v.account = u.account := hsame.account
    rw [heq]
    cases msg with
    | success m =>
      exact acts_success hevents (hv.trans hu) (hlate m rfl)
    | failure msg =>
      have hshows := App.shows_failure E ans msg v
      rw [hv] at hshows
      exact .quiet (hshows.popped hevents nofun fun _ => mayShow_entry)
  | tokenRefresh msg => exact acts_handleTokenRefreshMsg hevents hu
  | bridge event =>
    refine hpopped ?_ nofun
    cases event with
    | streamStatus connected => cases connected <;> rfl
    | _ => rfl
  | contactSearchResult results => exact hpopped rfl nofun
  | contactSearchError msg => exact hpopped rfl nofun
  | inviteAccepted userId username =>
    show s.Acts E _ (App.finishAddContact ans userId username u).account
    rw [App.account_finishAddContact]
    exact .invited hevents
  | registrationStep reached => exact hpopped rfl nofun
  | tick =>
    refine hpopped ?_ nofun
    unfold App.handleInternal
    dsimp only
    split <;> rfl
  | streamAuthRequired =>
    show s.Acts E _ (App.refreshTokenNow u).account
    unfold App.refreshTokenNow
    split
    · exact hpopped rfl nofun
    · next session hcurrent => exact .wakes hevents hcurrent
  | p2pStatus peerId connected latencyMs isRelay =>
    refine hpopped ?_ nofun
    cases connected <;> cases isRelay <;> rfl

/-! ### Tasks -/

theorem ended {s : Sys ε} {a : Label ε} {k : ℕ} {r : Running} (hr : s.tasks[k]? = some r)
    {e : InternalEvent} (h : Ending a r [e]) : s.Acts E a (s.conclude k e).account := by
  have hended := Acts.ended (E := E) hr h
  show s.Acts E a { s.account with
    tasks := s.tasks.eraseIdx k
    events := (s.queue ++ [(⟨e, false⟩ : Queued)]).map Queued.event }
  rw [List.map_append]
  exact hended

theorem ended_plain {s : Sys ε} {a : Label ε} {k : ℕ} {r : Running} (hr : s.tasks[k]? = some r)
    {e : InternalEvent} (h : e.bringsTokens = false) : s.Acts E a (s.conclude k e).account :=
  ended hr (.plain _ (List.forall_mem_singleton.mpr h))

theorem acts_beginRequest {s : Sys ε} {k : ℕ} {task : BackgroundTask} {session : Option Session}
    (hr : s.tasks[k]? = some ⟨task, false, session⟩) (htask : task ≠ .restoreFromDisk)
    (fresh : Session) :
    s.Acts E (.request k fresh ans) (beginRequest E k task fresh ans s).account := by
  cases task with
  | restoreFromDisk => exact absurd rfl htask
  | authenticate session reauth =>
    unfold beginRequest beginAuthenticate
    dsimp only
    split
    · exact ended_plain hr rfl
    · exact .requested _ hr
  | _ => exact .requested _ hr

theorem acts_finishRequest {s : Sys ε} {k : ℕ} {r : Running} (hr : s.tasks[k]? = some r)
    (htask : r.task ≠ .restoreFromDisk) (result : TaskResult) :
    s.Acts E (.finish k result ans) (finishRequest k r result ans s).account := by
  obtain ⟨task, requested, session⟩ := r
  have hrefresh (refreshToken : String) (htoken : task.refreshToken = some refreshToken) :
      s.Acts E (.finish k result ans)
        (s.conclude k (refreshEvent refreshToken result)).account := by
    cases result with
    | tokens userId accessToken newRefresh expiresAt => exact ended hr (.refreshed htoken rfl)
    | _ => exact ended_plain hr rfl
  cases task with
  | restoreFromDisk => exact absurd rfl htask
  | tokenRefresh deviceId refreshToken expiresAt =>
    have hfinish : finishRequest k ⟨.tokenRefresh deviceId refreshToken expiresAt, requested,
        session⟩ result ans s = s.conclude k (refreshEvent refreshToken result) := by
      cases result <;> rfl
    rw [hfinish]
    exact hrefresh refreshToken rfl
  | tokenRefreshNow deviceId refreshToken =>
    have hfinish : finishRequest k ⟨.tokenRefreshNow deviceId refreshToken, requested, session⟩
        result ans s = s.conclude k (refreshEvent refreshToken result) := by
      cases result <;> rfl
    rw [hfinish]
    exact hrefresh refreshToken rfl
  | uploadPreKeys deviceId keys =>
    have hended := Acts.ended (E := E) (a := .finish k result ans) hr
      (.plain [] (List.forall_mem_nil _))
    rw [List.append_nil] at hended
    have hfinish : finishRequest k (⟨.uploadPreKeys deviceId keys, requested, session⟩ : Running)
        result ans s =
        ({ s with tasks := s.tasks.eraseIdx k } : Sys ε) := by cases result <;> rfl
    rw [hfinish]
    exact hended
  | authenticate _ _ | register _ | link _ =>
    cases result with
    | tokens userId accessToken refreshToken expiresAt =>
      cases session with
      | none => exact .refl s _
      | some session => exact ended hr (.success _ rfl)
    | failed e => exact ended_plain hr rfl
    | rejected e => exact ended_plain hr rfl
    | _ => exact .refl s _
  | search query =>
    cases result with
    | found userId => cases userId <;> exact ended_plain hr rfl
    | failed e => exact ended_plain hr rfl
    | rejected e => exact ended_plain hr rfl
    | _ => exact .refl s _
  | redeem invite username =>
    cases result with
    | accepted userId => exact ended_plain hr rfl
    | failed e => exact ended_plain hr rfl
    | rejected e => exact ended_plain hr rfl
    | _ => exact .refl s _

/-! ### All steps -/

theorem quiet_enqueue (s : Sys ε) {es : List InternalEvent} (h : ∀ e ∈ es, e.bringsTokens = false) :
    s.account.Quiet { s.account with
      events := (s.queue ++ es.map fun event => (⟨event, false⟩ : Queued)).map Queued.event } := by
  have hes : es = (es.map fun event => (⟨event, false⟩ : Queued)).map Queued.event := by
    rw [List.map_map]
    exact (List.map_id es).symm
  rw [List.map_append, ← hes]
  exact .enqueue h

/-- No pipeline brings tokens. -/
theorem bringsTokens_of_notice {es : List InternalEvent} (h : ∀ e ∈ es, e.Notice) :
    ∀ e ∈ es, e.bringsTokens = false := fun e he => by cases h e he <;> rfl

/-- What happens beside the app and its tasks leaves the credentials alone. -/
theorem quiet_step {s s' : Sys ε} {a : Label ε} (h : step E s a = some s') (happ : a.ofApp = false)
    (htask : a.ofTask = false) : s.account.Quiet s'.account := by
  cases stepped h with
  | startup | key | internal => cases happ
  | request | finish => cases htask
  | tick | registrationStep => exact quiet_enqueue s (List.forall_mem_singleton.mpr rfl)
  | worker | take => exact quiet_enqueue s (List.forall_mem_nil _)
  | relay hp hr => exact quiet_enqueue s (bringsTokens_of_notice (Pipeline.notice_relayStep hr))
  | orchestrator hp hs' =>
    obtain ⟨⟨program, world⟩, -, rfl⟩ := Option.map_eq_some_iff.mp hs'
    show s.account.Quiet { s.account with events := (s.queue ++ _).map Queued.event }
    rw [List.map_append, List.map_map]
    refine .enqueue fun e he => ?_
    obtain ⟨event, -, rfl⟩ := List.mem_map.mp he
    rfl
  | subTask hp hr => exact quiet_enqueue s (bringsTokens_of_notice (Pipeline.notice_subTaskStep hr))

/-- Once nothing is being restored, every step is of one of the kinds. -/
theorem acts {s s' : Sys ε} {a : Label ε} (hlate : s.account.Late) (h : step E s a = some s') :
    s.Acts E a s'.account := by
  cases stepped h with
  | startup hscreen => exact absurd hscreen hlate.screen
  | @key key ans => exact acts_handleEvent s key
  | @internal ans q queue _ hqueue =>
    have hevents : s.account.events = _ := congrArg (List.map Queued.event) hqueue
    refine acts_handleInternal hqueue fun m hm => hlate.events m ?_
    rw [hevents, List.map_cons, hm]
    exact List.mem_cons_self
  | @request k fresh ans task session hr =>
    have htask := hlate.tasks _ (List.mem_of_getElem? hr)
    exact acts_beginRequest hr htask fresh
  | @finish k result ans task session hr =>
    have htask := hlate.tasks _ (List.mem_of_getElem? hr)
    exact acts_finishRequest hr htask result
  | _ => exact .quiet (quiet_step h rfl rfl)

/-- Sending a request does not change what a task does. -/
theorem map_task_modify (tasks : List Running) (k : ℕ) (session : Option Session) :
    (tasks.modify k fun r => { r with requested := true, session := session }).map Running.task =
      tasks.map Running.task := by
  induction tasks generalizing k with
  | nil => cases k <;> rfl
  | cons r tasks ih =>
    cases k with
    | zero => rfl
    | succ k => exact congrArg (r.task :: ·) (ih k)

/-- A task that carries no credentials restores nothing. -/
theorem ne_restore_of_plain {task : BackgroundTask} (h : task.plain) : task ≠ .restoreFromDisk := by
  rintro rfl
  cases h

/-- Nothing will be restored from then on. -/
theorem Acts.late {s : Sys ε} {a : Label ε} {B : Account} (h : s.Acts E a B)
    (hlate : s.account.Late) : B.Late := by
  have htasks {extra : List Running} (hextra : ∀ r ∈ extra, r.task ≠ .restoreFromDisk) :
      ∀ r ∈ s.tasks ++ extra, r.task ≠ .restoreFromDisk := by
    intro r hr
    obtain hr | hr := List.mem_append.mp hr
    · exact hlate.tasks r hr
    · exact hextra r hr
  have hrest {e : InternalEvent} {rest : List InternalEvent} (he : s.account.events = e :: rest) :
      ∀ m, .auth (.success m) ∈ rest → m.pendingSave = some m.fullSession :=
    fun m hm => hlate.events m (he ▸ List.mem_cons_of_mem e hm)
  cases h with
  | quiet h =>
    refine ⟨?_, ?_, fun hscreen => hlate.screen (h.startup hscreen)⟩
    · obtain ⟨extra, hextra, htasks'⟩ := h.tasks
      rw [htasks']
      exact htasks fun r hr => ne_restore_of_plain (hextra r hr)
    · obtain ⟨e, he, -⟩ | ⟨es, hes, he⟩ := h.events
      · exact hrest he
      · intro m hm
        rw [he] at hm
        obtain hm | hm := List.mem_append.mp hm
        · exact hlate.events m hm
        · cases hes _ hm
  | saved hevents hkey hsave hextra =>
    refine ⟨htasks (List.forall_mem_cons.mpr ⟨nofun, fun r hr => ?_⟩), hrest hevents, nofun⟩
    exact ne_restore_of_plain (hextra r hr)
  | unsaved e hevents hkey hsave =>
    exact ⟨htasks (List.forall_mem_singleton.mpr nofun), hrest hevents, nofun⟩
  | waits hevents hkey hencrypt =>
    exact ⟨htasks (List.forall_mem_singleton.mpr nofun), hrest hevents, nofun⟩
  | refreshed hevents hcurrent hupdated =>
    exact ⟨htasks (List.forall_mem_singleton.mpr nofun), hrest hevents, hlate.screen⟩
  | wakes hevents hcurrent =>
    exact ⟨htasks (List.forall_mem_singleton.mpr nofun), hrest hevents, hlate.screen⟩
  | reauthenticates hevents hcurrent =>
    exact ⟨htasks (List.forall_mem_singleton.mpr nofun), hrest hevents, hlate.screen⟩
  | invited hevents => exact ⟨hlate.tasks, hrest hevents, nofun⟩
  | unlocked msg hscreen hopen hload =>
    exact ⟨htasks (List.forall_mem_singleton.mpr nofun), hlate.events, nofun⟩
  | sealed hscreen hkey htyped hpending hkeys hsave hextra =>
    exact ⟨htasks fun r hr => ne_restore_of_plain (hextra r hr), hlate.events, nofun⟩
  | sealFailed hscreen hkey htyped hpending hkeys hsave =>
    exact ⟨hlate.tasks, hlate.events, hlate.screen⟩
  | loggedOut h => exact ⟨hlate.tasks, hlate.events, nofun⟩
  | stuck hscreen hclear => exact ⟨hlate.tasks, hlate.events, hlate.screen⟩
  | requested session' hr =>
    refine ⟨fun r hr' => ?_, hlate.events, hlate.screen⟩
    have hmem := List.mem_map_of_mem (f := Running.task) hr'
    rw [map_task_modify] at hmem
    obtain ⟨r', hr', heq⟩ := List.mem_map.mp hmem
    exact heq ▸ hlate.tasks r' hr'
  | ended hr h =>
    refine ⟨fun r hr' => hlate.tasks r (List.mem_of_mem_eraseIdx hr'), fun m hm => ?_, hlate.screen⟩
    obtain hm | hm := List.mem_append.mp hm
    · exact hlate.events m hm
    · cases h with
      | plain es h => cases h _ hm
      | success m' h =>
        cases List.mem_singleton.mp hm
        exact h
      | refreshed hr ha => cases List.mem_singleton.mp hm

/-- Whoever has not signed in comes to the chats first. -/
theorem Acts.signedIn {s : Sys ε} {a : Label ε} {B : Account} (h : s.Acts E a B)
    (hB : B.screen.signedIn) : s.app.screen.signedIn ∨ B.screen = .main := by
  cases h with
  | quiet h => exact .inl (h.signedIn hB)
  | saved | invited | sealed => exact .inr rfl
  | unsaved | waits | unlocked | loggedOut => cases hB
  | refreshed | wakes | reauthenticates | sealFailed | stuck | requested | ended => exact .inl hB

end Sys

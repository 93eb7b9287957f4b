import ConstructTui.App.Runs

/-!
# The credentials

The sessions in memory and on disk, the key, and the tasks and events that carry credentials from
one to the other. Most of what the app does leaves them alone.

## Main definitions

* `Account`, `Sys.account`: what the credentials depend on.
* `Account.Shows`: nothing but the screen changes, up to tasks without credentials.
* `Account.Quiet`: the credentials are left alone.
-/

/-- The screens that show only to those who have signed in. -/
def Screen.signedIn : Screen → Bool
  | .main | .settings | .identityQr | .contactSearch | .safetyNumber => true
  | _ => false

/-- Those of them that show nothing but what the user has opened from the chats. -/
def Screen.browsing : Screen → Bool
  | .main | .settings | .identityQr | .contactSearch => true
  | _ => false

theorem Screen.signedIn_of_browsing {screen : Screen} (h : screen.browsing) : screen.signedIn := by
  cases screen with
  | main | settings | identityQr | contactSearch => rfl
  | _ => cases h

/-- The screens on the way there that ask for no passphrase. -/
def Screen.entry : Screen → Bool
  | .onboarding | .deviceLink | .registering | .connecting _ | .authError _ => true
  | _ => false

/-- The tasks that work without the credentials of a session. -/
def BackgroundTask.plain : BackgroundTask → Bool
  | .register _ | .link _ | .uploadPreKeys _ _ | .search _ | .redeem _ _ => true
  | .restoreFromDisk | .authenticate _ _ | .tokenRefresh _ _ _ | .tokenRefreshNow _ _ => false

/-- The refresh token a task presents. -/
def BackgroundTask.refreshToken : BackgroundTask → Option String
  | .tokenRefresh _ refreshToken _ | .tokenRefreshNow _ refreshToken => some refreshToken
  | _ => none

/-- The events that bring tokens. -/
def InternalEvent.bringsTokens : InternalEvent → Bool
  | .auth (.success _) | .tokenRefresh (.refreshed _ _ _) => true
  | _ => false

/-- What the credentials depend on. -/
structure Account where
  screen : Screen
  currentSession : Option Session
  pendingSession : Option Session
  sessionKey : Option SessionKey
  noEncrypt : Bool
  dir : ConfigDir
  tasks : List Running
  events : List InternalEvent

variable {ε : Type}

def Sys.account (s : Sys ε) : Account where
  screen := s.app.screen
  currentSession := s.app.currentSession
  pendingSession := s.app.pendingSession
  sessionKey := s.app.sessionKey
  noEncrypt := s.app.noEncrypt
  dir := s.dir
  tasks := s.tasks
  events := s.queue.map Queued.event

namespace Account

/-- The screen changes to one of some screens, and tasks that carry no credentials are added. -/
def Shows (P : Screen → Prop) (A B : Account) : Prop :=
  ∃ screen extra, P screen ∧ (∀ r ∈ extra, r.task.plain) ∧
    B = { A with screen := screen, tasks := A.tasks ++ extra }

variable {P : Screen → Prop} {A B C : Account}

theorem Shows.of_eq (hscreen : P A.screen) (h : B = A) : Shows P A B :=
  ⟨A.screen, [], hscreen, by simp, by simp [h]⟩

theorem Shows.show (screen : Screen) (hscreen : P screen) (h : B = { A with screen := screen }) :
    Shows P A B := ⟨screen, [], hscreen, by simp, by simp [h]⟩

theorem Shows.spawn (screen : Screen) (task : BackgroundTask) (hscreen : P screen)
    (htask : task.plain) (h : B = { A with
      screen := screen, tasks := A.tasks ++ [⟨task, false, none⟩] }) : Shows P A B :=
  ⟨screen, _, hscreen, by simpa using htask, h⟩

theorem Shows.mono {Q : Screen → Prop} (hPQ : ∀ screen, P screen → Q screen) (h : Shows P A B) :
    Shows Q A B := by
  obtain ⟨screen, extra, hscreen, hextra, heq⟩ := h
  exact ⟨screen, extra, hPQ screen hscreen, hextra, heq⟩

/-- The credentials are left alone. Events that bring no tokens may have come, or an event has been
taken that does not matter. -/
structure Quiet (A B : Account) : Prop where
  creds : B.currentSession = A.currentSession ∧ B.pendingSession = A.pendingSession ∧
    B.sessionKey = A.sessionKey ∧ B.noEncrypt = A.noEncrypt
  dir : B.dir = A.dir ∨ B.dir = A.dir.sessionPath
  tasks : ∃ extra, (∀ r ∈ extra, r.task.plain) ∧ B.tasks = A.tasks ++ extra
  events : (∃ e, A.events = e :: B.events ∧ (e.bringsTokens → A.currentSession = none)) ∨
    ∃ es, (∀ e ∈ es, e.bringsTokens = false) ∧ B.events = A.events ++ es
  signedIn : B.screen.signedIn → A.screen.signedIn
  unlock : B.screen = .unlock → A.screen = .unlock ∨ A.sessionKey.isSome
  startup : B.screen = .startup → A.screen = .startup

theorem Quiet.refl (A : Account) : Quiet A A where
  creds := ⟨rfl, rfl, rfl, rfl⟩
  dir := .inl rfl
  tasks := ⟨[], by simp, by simp⟩
  events := .inr ⟨[], by simp, by simp⟩
  signedIn := id
  unlock := .inl
  startup := id

theorem Quiet.enqueue {es : List InternalEvent} (h : ∀ e ∈ es, e.bringsTokens = false) :
    Quiet A { A with events := A.events ++ es } where
  __ := Quiet.refl A
  events := .inr ⟨es, h, rfl⟩

theorem Quiet.sessionPath (A : Account) : Quiet A { A with dir := A.dir.sessionPath } where
  __ := Quiet.refl A
  dir := .inr rfl

/-- The screens that may show up while the credentials are left alone. -/
def MayShow (A : Account) (screen : Screen) : Prop :=
  (screen.signedIn → A.screen.signedIn) ∧
    (screen = .unlock → A.screen = .unlock ∨ A.sessionKey.isSome) ∧
    (screen = .startup → A.screen = .startup)

theorem Shows.quiet (h : Shows P A B) (hP : ∀ screen, P screen → A.MayShow screen) :
    Quiet A B := by
  obtain ⟨screen, extra, hscreen, hextra, rfl⟩ := h
  obtain ⟨hsigned, hunlock, hstartup⟩ := hP screen hscreen
  exact ⟨⟨rfl, rfl, rfl, rfl⟩, .inl rfl, ⟨extra, hextra, rfl⟩, .inr ⟨[], by simp, by simp⟩, hsigned,
    hunlock, hstartup⟩

/-- The first event has been taken, and the screen has changed. -/
theorem Shows.popped {e : InternalEvent} {rest : List InternalEvent} (h : Shows P { A with
      events := rest } B) (he : A.events = e :: rest)
    (hdrop : e.bringsTokens → A.currentSession = none)
    (hP : ∀ screen, P screen → A.MayShow screen) : Quiet A B := by
  obtain ⟨screen, extra, hscreen, hextra, rfl⟩ := h
  obtain ⟨hsigned, hunlock, hstartup⟩ := hP screen hscreen
  exact ⟨⟨rfl, rfl, rfl, rfl⟩, .inl rfl, ⟨extra, hextra, rfl⟩, .inl ⟨e, he, hdrop⟩, hsigned,
    hunlock, hstartup⟩

theorem mayShow_self (A : Account) : A.MayShow A.screen := ⟨id, .inl, id⟩

theorem mayShow_entry {screen : Screen} (h : screen.entry) : A.MayShow screen := by
  cases screen with
  | onboarding | deviceLink | registering | connecting _ | authError _ =>
    exact ⟨nofun, nofun, nofun⟩
  | _ => cases h

theorem mayShow_signedIn (hA : A.screen.signedIn) {screen : Screen} (h : screen.signedIn) :
    A.MayShow screen := by
  refine ⟨fun _ => hA, ?_, ?_⟩
  · rintro rfl
    cases h
  · rintro rfl
    cases h

end Account

open Account

theorem ConfigDir.saveFile_eq_ok {file : SessionFile} {outcome : SaveOutcome} {d : ConfigDir}
    (h : outcome = .saved) :
    d.saveFile file outcome = (.ok (), (d.saveFile file outcome).2) := by
  rw [h]
  rfl

theorem ConfigDir.saveFile_eq_error (file : SessionFile) {outcome : SaveOutcome} (d : ConfigDir)
    (h : outcome ≠ .saved) :
    ∃ e, d.saveFile file outcome = (.error e, (d.saveFile file outcome).2) := by
  cases outcome with
  | saved => exact absurd rfl h
  | notWritten e => exact ⟨e, rfl⟩
  | halfWritten e => exact ⟨e, rfl⟩
  | permissionsFailed e => exact ⟨e, rfl⟩

/-! ### The chats -/

section Chats

variable (E : AppExternals ε) (ans : Answers ε)

@[simp] theorem Sys.account_orchSend (s : Sys ε) (handle : Option ℕ) (event : IncomingEvent) :
    (s.orchSend handle event).account = s.account := by cases handle <;> rfl

@[simp] theorem Sys.account_orchCommand (s : Sys ε) (handle : Option ℕ)
    (cmd : OrchestratorCommand) : (s.orchCommand handle cmd).account = s.account := by
  cases handle <;> rfl

@[simp] theorem Sys.account_streamTrySend (s : Sys ε) (handle : Option ℕ) (hasRoom : Bool)
    (cmd : StreamCmd) : (s.streamTrySend handle hasRoom cmd).account = s.account := by
  cases handle <;> cases hasRoom <;> rfl

namespace App

@[simp] theorem account_resubscribe (s : Sys ε) :
    (resubscribeStreamToContacts ans s).account = s.account := Sys.account_streamTrySend s _ _ _

@[simp] theorem account_setFocus (f : Focus) (s : Sys ε) : (setFocus f s).account = s.account := rfl

@[simp] theorem account_openConversation (c : Contact) (s : Sys ε) :
    (openConversation ans c s).account = s.account :=
  Sys.account_orchSend s s.app.orchHandle (.activeChatChanged c.id true)

@[simp] theorem account_sendCompose (s : Sys ε) : (sendCompose ans s).account = s.account := by
  unfold sendCompose
  dsimp only
  split
  · rfl
  · split
    · exact Sys.account_orchSend _ _ _
    · rfl

@[simp] theorem account_markGone (userId : String) (s : Sys ε) :
    (markGone userId s).account = s.account := by
  unfold markGone Sys.account
  simp only [List.map_map]
  rfl

@[simp] theorem account_deleteRows (userId : String) (s : Sys ε) :
    (deleteRows ans userId s).2.account = s.account := by
  unfold deleteRows
  split
  · exact account_markGone userId _
  · rfl

@[simp] theorem account_removeContact (peerId : String) (s : Sys ε) :
    (removeContact ans peerId s).account = s.account := by
  have hcommand := Sys.account_orchCommand s s.app.orchHandle (.forgetContact peerId)
  unfold removeContact
  dsimp only
  split
  · split <;> exact (account_resubscribe ans _).trans hcommand
  · split <;> exact (account_resubscribe ans _).trans hcommand

@[simp] theorem account_confirmDelete (s : Sys ε) : (confirmDelete ans s).account = s.account := by
  unfold confirmDelete
  split
  · rfl
  · next peerId _ =>
    have hrows := account_deleteRows ans peerId s.answered
    dsimp only
    split
    · next h =>
      rw [Sys.answered, h] at hrows
      exact hrows
    · next h =>
      rw [Sys.answered, h] at hrows
      exact (account_removeContact ans peerId _).trans hrows

/-- An added contact brings the chats to the front. -/
theorem account_finishAddContact (userId username : String) (s : Sys ε) :
    (finishAddContact ans userId username s).account = { s.account with screen := .main } := by
  obtain ⟨t, u, ht, hu, -, heq⟩ := finishAddContact_eq ans userId username s
  have haccount : u.account = s.account := by
    rw [hu, Sys.account_orchSend, account_resubscribe, ht]
    rfl
  rw [heq, ← haccount]
  rfl

theorem browses_submitContactSearch {s : Sys ε} (hscreen : s.app.screen = .contactSearch) :
    Shows (Screen.browsing ·) s.account (submitContactSearch E ans s).account := by
  have hs : s.account.screen.browsing := by
    show s.app.screen.browsing = true
    rw [hscreen]
    rfl
  unfold submitContactSearch
  dsimp only
  split
  · unfold redeemPastedInvite
    split
    · exact .of_eq hs rfl
    · split
      · exact .of_eq hs rfl
      · exact .spawn s.app.screen _ hs rfl rfl
  · split
    · exact .of_eq hs rfl
    · exact .spawn s.app.screen _ hs rfl rfl

theorem browses_handleContactSearch {s : Sys ε} (hscreen : s.app.screen = .contactSearch)
    (key : KeyEvent) :
    Shows (Screen.browsing ·) s.account (handleContactSearch E ans key s).account := by
  have hs : s.account.screen.browsing := by
    show s.app.screen.browsing = true
    rw [hscreen]
    rfl
  have hadd : Shows (Screen.browsing ·) s.account (addSelectedSearchResult ans s).account := by
    unfold addSelectedSearchResult
    split
    · exact .of_eq hs rfl
    · exact .show .main rfl (account_finishAddContact ans _ _ s)
  unfold handleContactSearch
  dsimp only
  split
  · exact .show .main rfl rfl
  · exact .of_eq hs rfl
  · exact .of_eq hs rfl
  · exact .of_eq hs rfl
  · exact .of_eq hs rfl
  · split
    · exact hadd
    · exact browses_submitContactSearch E ans hscreen
  · exact .of_eq hs rfl
  · split
    · exact hadd
    · exact .of_eq hs rfl
  · exact .of_eq hs rfl

theorem browses_handleMain {s : Sys ε} (hscreen : s.app.screen = .main) (key : KeyEvent) :
    Shows (Screen.browsing ·) s.account (handleMain ans key s).account := by
  have hs : s.account.screen.browsing := by
    show s.app.screen.browsing = true
    rw [hscreen]
    rfl
  unfold handleMain
  split
  · split
    · exact .of_eq hs (account_confirmDelete ans s)
    · exact .of_eq hs rfl
  · split
    · exact .of_eq hs rfl
    · split
      · unfold handleContactListKey
        split
        · exact .of_eq hs rfl
        · exact .of_eq hs rfl
        · exact .of_eq hs rfl
        · exact .of_eq hs rfl
        · split
          · split <;> exact .of_eq hs rfl
          · exact .of_eq hs rfl
        · split
          · exact .of_eq hs (account_openConversation ans _ s)
          · exact .of_eq hs rfl
        · split
          · exact .of_eq hs (account_openConversation ans _ s)
          · exact .of_eq hs rfl
        · split
          · exact .show .settings rfl rfl
          · exact .of_eq hs rfl
        · split
          · exact .show .contactSearch rfl rfl
          · exact .of_eq hs rfl
        · split
          · exact .show .contactSearch rfl rfl
          · exact .of_eq hs rfl
        · exact .of_eq hs rfl
      · unfold handleChatViewKey
        dsimp only
        split <;> exact .of_eq hs rfl
      · unfold handleComposeKey
        split
        · exact .of_eq hs rfl
        · exact .of_eq hs (account_sendCompose ans s)
        · exact .of_eq hs rfl
        · exact .of_eq hs rfl
        · exact .of_eq hs rfl

theorem shows_handleContactSearch {s : Sys ε} (hscreen : s.app.screen = .contactSearch)
    (key : KeyEvent) :
    Shows (Screen.signedIn ·) s.account (handleContactSearch E ans key s).account :=
  (browses_handleContactSearch E ans hscreen key).mono fun _ => Screen.signedIn_of_browsing

theorem shows_handleMain {s : Sys ε} (hscreen : s.app.screen = .main) (key : KeyEvent) :
    Shows (Screen.signedIn ·) s.account (handleMain ans key s).account :=
  (browses_handleMain ans hscreen key).mono fun _ => Screen.signedIn_of_browsing

/-! ### Before there is a session -/

theorem shows_handleOnboarding {s : Sys ε} (hscreen : s.app.screen = .onboarding)
    (key : KeyEvent) : Shows (Screen.entry ·) s.account (handleOnboarding key s).account := by
  have hs : s.account.screen.entry := by
    show s.app.screen.entry = true
    rw [hscreen]
    rfl
  unfold handleOnboarding
  split
  · exact .show .deviceLink rfl rfl
  · exact .show .deviceLink rfl rfl
  · exact .spawn .registering _ rfl rfl rfl
  · exact .of_eq hs rfl
  · split <;> exact .of_eq hs rfl
  · exact .of_eq hs rfl

theorem shows_handleDeviceLink {s : Sys ε} (hscreen : s.app.screen = .deviceLink)
    (key : KeyEvent) : Shows (Screen.entry ·) s.account (handleDeviceLink key s).account := by
  have hs : s.account.screen.entry := by
    show s.app.screen.entry = true
    rw [hscreen]
    rfl
  unfold handleDeviceLink
  split
  · split
    · exact .show .onboarding rfl rfl
    · exact .of_eq hs rfl
  · dsimp only
    split
    · exact .of_eq hs rfl
    · exact .spawn (.connecting "Confirming device link…") _ rfl rfl rfl
  · exact .of_eq hs rfl
  · split
    · exact .show .onboarding rfl rfl
    · split <;> exact .of_eq hs rfl
  · exact .of_eq hs rfl

/-- A failed authentication shows an entry screen. -/
theorem shows_failure (msg : String) (s : Sys ε) :
    Shows (Screen.entry ·) s.account (handleAuthMsg E ans (.failure msg) s).account := by
  obtain ⟨screen, hscreen, heq⟩ := handleAuthMsg_failure E ans msg s
  rw [heq]
  obtain rfl | rfl := hscreen
  · exact .show .onboarding rfl rfl
  · exact .show (.authError msg) rfl rfl

@[simp] theorem account_loadContacts (s : Sys ε) : (loadContacts ans s).account = s.account := by
  unfold loadContacts
  split <;> rfl

/-- A new pipeline adds at most the upload of one-time keys. -/
theorem account_startOrchestrator (session : Session) (userId deviceId : String) (s : Sys ε) :
    ∃ extra : List Running, (∀ r ∈ extra, r.task.plain) ∧
      (startOrchestrator E ans session userId deviceId s).account =
        { s.account with tasks := s.tasks ++ extra } := by
  have hload := account_loadContacts ans s
  unfold startOrchestrator
  split
  · exact ⟨[], by simp, by simp; rfl⟩
  · unfold spawnPipeline
    dsimp only
    split
    · exact ⟨[], by simp, by simp; exact hload⟩
    · have hspawn (upload : Running) :
          { (loadContacts ans s).account with
            tasks := (loadContacts ans s).account.tasks ++ [upload] } =
          { s.account with tasks := s.tasks ++ [upload] } := by
        rw [hload]
        rfl
      refine ⟨[⟨.uploadPreKeys deviceId (E.generateOtpks (restoreSessions E ans _ _ _)).1, false,
        none⟩], fun r hr => ?_, hspawn _⟩
      rw [List.mem_singleton.mp hr]
      rfl

theorem account_startOrchestrator_main (session : Session) (userId deviceId : String)
    (s : Sys ε) : ∃ extra : List Running, (∀ r ∈ extra, r.task.plain) ∧
      ((startOrchestrator E ans session userId deviceId s).setScreen .main).account =
        { s.account with screen := .main, tasks := s.tasks ++ extra } := by
  obtain ⟨extra, hextra, heq⟩ := account_startOrchestrator E ans session userId deviceId s
  exact ⟨extra, hextra, congrArg (fun A : Account => { A with screen := .main }) heq⟩

/-- A new session that can be saved, and is. -/
theorem account_saved (m : AuthSuccess) (session : Session) {s : Sys ε}
    (hkey : s.app.sessionKey.isSome || s.app.noEncrypt) (hsave : ans.save = .saved) :
    ∃ extra : List Running, (∀ r ∈ extra, r.task.plain) ∧
      (saveAndEnter E ans m session s).account = { s.account with
        screen := .main
        dir := (s.dir.saveFile (ConfigDir.sessionFile session s.app.sessionKey) ans.save).2
        tasks := s.tasks ++ extra } := by
  obtain ⟨extra, hextra, heq⟩ := account_startOrchestrator_main E ans m.fullSession m.userId
    m.deviceId { s with dir := (s.dir.saveFile
      (ConfigDir.sessionFile session s.app.sessionKey) ans.save).2 }
  refine ⟨extra, hextra, ?_⟩
  unfold saveAndEnter saveSession
  rw [if_pos hkey, ConfigDir.saveFile_eq_ok hsave]
  exact heq

/-- A new session that could be saved, and is not. -/
theorem account_unsaved (m : AuthSuccess) (session : Session) {s : Sys ε}
    (hkey : s.app.sessionKey.isSome || s.app.noEncrypt) (hsave : ans.save ≠ .saved) :
    ∃ e, (saveAndEnter E ans m session s).account = { s.account with
      screen := .authError e
      dir := (s.dir.saveFile (ConfigDir.sessionFile session s.app.sessionKey) ans.save).2 } := by
  obtain ⟨e, he⟩ := ConfigDir.saveFile_eq_error
    (ConfigDir.sessionFile session s.app.sessionKey) s.dir hsave
  unfold saveAndEnter saveSession
  rw [if_pos hkey, he]
  exact ⟨_, rfl⟩

/-- A new session that has to wait for a passphrase. -/
theorem account_waits {m : AuthSuccess} {session : Session} {s : Sys ε}
    (hkey : ¬(s.app.sessionKey.isSome || s.app.noEncrypt)) :
    (saveAndEnter E ans m session s).account = { s.account with
      screen := .setPassphrase, pendingSession := some session } := by
  unfold saveAndEnter
  rw [if_neg hkey]
  rfl

/-- The passphrase is chosen, and the session is saved under it. -/
theorem account_protect {passphrase : Bytes} (session : Session) {keys : DerivedKeys} {s : Sys ε}
    (hkeys : E.deriveKeys passphrase ans.masterSalt = .ok keys) (hsave : ans.save = .saved) :
    ∃ extra : List Running, (∀ r ∈ extra, r.task.plain) ∧
      (protect E ans passphrase session s).account = { s.account with
        screen := .main
        sessionKey := some ⟨keys, ans.masterSalt⟩
        pendingSession := none
        dir := (s.dir.saveFile
          (ConfigDir.sessionFile session (some ⟨keys, ans.masterSalt⟩)) ans.save).2
        tasks := s.tasks ++ extra } := by
  unfold protect
  rw [hkeys]
  dsimp only
  rw [ConfigDir.saveFile_eq_ok hsave]
  dsimp only
  split
  · exact account_startOrchestrator_main E ans _ _ _ _
  · exact ⟨[], List.forall_mem_nil _, by rw [List.append_nil]; rfl⟩

theorem account_protect_failed {passphrase : Bytes} (session : Session) {keys : DerivedKeys}
    {s : Sys ε} (hkeys : E.deriveKeys passphrase ans.masterSalt = .ok keys)
    (hsave : ans.save ≠ .saved) :
    (protect E ans passphrase session s).account = { s.account with
      dir := (s.dir.saveFile
        (ConfigDir.sessionFile session (some ⟨keys, ans.masterSalt⟩)) ans.save).2 } := by
  obtain ⟨e, he⟩ := ConfigDir.saveFile_eq_error
    (ConfigDir.sessionFile session (some ⟨keys, ans.masterSalt⟩)) s.dir hsave
  unfold protect
  rw [hkeys]
  dsimp only
  rw [he]
  rfl

theorem account_persistSessionBackground (session : Session) (s : Sys ε) :
    (persistSessionBackground ans session s).account = { s.account with
      currentSession := some session
      dir := if s.app.sessionKey.isSome || s.app.noEncrypt
        then (s.dir.saveFile (ConfigDir.sessionFile session s.app.sessionKey) ans.save).2
        else s.dir
      tasks := s.tasks ++ [⟨.tokenRefresh session.deviceId session.refreshToken session.expiresAt,
        false, none⟩] } := by
  let t := startTokenRefresh session (s.modApp fun a => { a with currentSession := some session })
  show Sys.account (if s.app.sessionKey.isSome || s.app.noEncrypt
    then (saveSession ans session t).2 else t) = _
  by_cases h : (s.app.sessionKey.isSome || s.app.noEncrypt) = true
  · rw [if_pos h, if_pos h]
    rfl
  · rw [if_neg h, if_neg h]
    rfl

end App

end Chats

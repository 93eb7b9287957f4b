import ConstructTui.App.Moves

/-!
# What the handlers of the app do

Every handler of the app makes one of the moves, and each step of the client is a move or leaves
the app alone.

## Main results

* `App.handle_move`: what a key or an event does to the app.
-/

namespace App

variable {ε : Type} (E : AppExternals ε) (ans : Answers ε)

/-- What the app's loop does with one input. -/
def handle (s : Sys ε) : Input → Sys ε
  | .key key => handleEvent E ans key s
  | .event event gone => handleInternal E ans event gone s

/-! ### Inputs that change nothing here -/

theorem still_startupCheck (s : Sys ε) : Still s (startupCheck ans s) := by
  unfold startupCheck
  dsimp only
  split <;> exact ⟨rfl, rfl, rfl, rfl, rfl⟩

theorem still_refreshTokenNow (s : Sys ε) : Still s (refreshTokenNow s) := by
  unfold refreshTokenNow
  split
  · exact .refl s
  · exact .spawn s _

theorem still_startDeviceReauth (s : Sys ε) : Still s (startDeviceReauth s) := by
  unfold startDeviceReauth
  split
  · exact .setStatus s _
  · exact .spawn s _

theorem still_persistSessionBackground (session : Session) (s : Sys ε) :
    Still s (persistSessionBackground ans session s) := by
  unfold persistSessionBackground
  dsimp only
  split <;> exact ⟨rfl, rfl, rfl, rfl, rfl⟩

theorem still_handleTokenRefreshMsg (msg : TokenRefreshMsg) (s : Sys ε) :
    Still s (handleTokenRefreshMsg ans msg s) := by
  cases msg with
  | refreshed accessToken refreshToken expiresAt =>
    let t : Sys ε := { s.modApp (fun a => { a with accessToken := accessToken }) with
      grpc := { s.grpc with token := some accessToken } }
    have ht : Still s t := ⟨rfl, rfl, rfl, rfl, rfl⟩
    unfold handleTokenRefreshMsg
    dsimp only
    split
    · exact ht
    · exact ht.trans (still_persistSessionBackground ans _ t)
  | failedTransport e => exact .refl s
  | failedAuth e => exact still_startDeviceReauth s

theorem still_handleOnboarding (key : KeyEvent) (s : Sys ε) :
    Still s (handleOnboarding key s) := by
  unfold handleOnboarding
  split
  · exact ⟨rfl, rfl, rfl, rfl, rfl⟩
  · exact ⟨rfl, rfl, rfl, rfl, rfl⟩
  · exact ⟨rfl, rfl, rfl, rfl, rfl⟩
  · exact ⟨rfl, rfl, rfl, rfl, rfl⟩
  · split <;> exact ⟨rfl, rfl, rfl, rfl, rfl⟩
  · exact .refl s

theorem still_setUnlockError (msg : String) (s : Sys ε) : Still s (setUnlockError msg s) :=
  ⟨rfl, rfl, rfl, rfl, rfl⟩

theorem still_unlock (passphrase : Bytes) (s : Sys ε) : Still s (unlock E ans passphrase s) := by
  unfold unlock
  dsimp only
  split
  · exact ⟨rfl, rfl, rfl, rfl, rfl⟩
  · split
    · split <;> exact ⟨rfl, rfl, rfl, rfl, rfl⟩
    · exact ⟨rfl, rfl, rfl, rfl, rfl⟩
    · exact ⟨rfl, rfl, rfl, rfl, rfl⟩

theorem still_handleUnlock (key : KeyEvent) (s : Sys ε) : Still s (handleUnlock E ans key s) := by
  unfold handleUnlock
  cases key.code with
  | backspace => exact ⟨rfl, rfl, rfl, rfl, rfl⟩
  | char c => exact ⟨rfl, rfl, rfl, rfl, rfl⟩
  | enter =>
    dsimp only
    split
    · exact ⟨rfl, rfl, rfl, rfl, rfl⟩
    · have hs : Still s (s.modApp fun a =>
          { a with unlockScreen := s.app.unlockScreen.takePassphrase.2 }) := Still.modApp ⟨rfl, rfl⟩
      exact hs.trans (still_unlock E ans _ _)
  | _ => exact .refl s

theorem still_handleDeviceLink (key : KeyEvent) (s : Sys ε) :
    Still s (handleDeviceLink key s) := by
  unfold handleDeviceLink
  split
  · split <;> exact ⟨rfl, rfl, rfl, rfl, rfl⟩
  · dsimp only
    split <;> exact ⟨rfl, rfl, rfl, rfl, rfl⟩
  · exact ⟨rfl, rfl, rfl, rfl, rfl⟩
  · split
    · exact ⟨rfl, rfl, rfl, rfl, rfl⟩
    · split <;> exact ⟨rfl, rfl, rfl, rfl, rfl⟩
  · exact .refl s

theorem still_openSafetyNumberScreen (s : Sys ε) : Still s (openSafetyNumberScreen E ans s) := by
  unfold openSafetyNumberScreen
  split
  · exact .setStatus s _
  · split <;> exact ⟨rfl, rfl, rfl, rfl, rfl⟩

theorem still_exportIdentityKey (s : Sys ε) : Still s (exportIdentityKey ans s) := by
  unfold exportIdentityKey
  split
  · exact .setStatus s _
  · split <;> exact .setStatus s _

theorem still_submitContactSearch (s : Sys ε) : Still s (submitContactSearch E ans s) := by
  unfold submitContactSearch
  dsimp only
  split
  · unfold redeemPastedInvite
    split
    · exact ⟨rfl, rfl, rfl, rfl, rfl⟩
    · split <;> exact ⟨rfl, rfl, rfl, rfl, rfl⟩
  · split <;> exact ⟨rfl, rfl, rfl, rfl, rfl⟩

theorem still_handleP2pStatus (peerId : String) (connected : Bool) (latencyMs : Option ℕ)
    (isRelay : Bool) (s : Sys ε) :
    Still s (handleP2pStatus peerId connected latencyMs isRelay s) := by
  unfold handleP2pStatus
  refine Still.modApp ⟨?_, ?_⟩ <;> (split <;> [rfl; (split <;> rfl)])

theorem still_failure (msg : String) (s : Sys ε) :
    Still s (handleAuthMsg E ans (.failure msg) s) := by
  obtain ⟨screen, -, heq⟩ := handleAuthMsg_failure E ans msg s
  rw [heq]
  exact .modApp ⟨rfl, rfl⟩

/-! ### Starting a pipeline -/

theorem chatList_loadContacts (s : Sys ε) : (loadContacts ans s).app.chatList =
    match storedContacts ans s with
    | none => s.app.chatList
    | some stored => s.app.chatList.setContacts (stored.map contactOf) := by
  unfold loadContacts
  cases storedContacts ans s <;> rfl

theorem storedContacts_congr {s t : Sys ε} (h : t.db = s.db) :
    storedContacts ans t = storedContacts ans s := by
  unfold storedContacts
  rw [h]

end App

variable {ε : Type} {E : AppExternals ε} {ans : Answers ε}

theorem Started.of_still {s t u : Sys ε} (h : Still s t) (h' : Started E ans t u) :
    Started E ans s u where
  talk := by
    have hlist : t.app.chatList = s.app.chatList := congrArg Talk.chatList h.talk
    rw [h'.talk, h.talk, App.chatList_loadContacts, App.chatList_loadContacts,
      App.storedContacts_congr ans h.db, hlist]
  handles := by rw [h'.handles, h.pipelines]
  db := h'.db.trans h.db
  queue := h'.queue.trans h.queue
  pipelines := by
    obtain ⟨userId, deviceId, contactIds, identitySecret, core, hp⟩ := h'.pipelines
    exact ⟨userId, deviceId, contactIds, identitySecret, core, by rw [hp, h.pipelines, h.db]⟩

theorem Started.still {s t u : Sys ε} (h : Started E ans s t) (h' : Still t u) :
    Started E ans s u where
  talk := h'.talk.trans h.talk
  handles := h'.handles.trans h.handles
  db := h'.db.trans h.db
  queue := h'.queue.trans h.queue
  pipelines := by rw [h'.pipelines]; exact h.pipelines

/-- At most the checklist of a registration has changed. -/
def Sys.SameButChecklist (s t : Sys ε) : Prop := ∃ ticking registration,
  t = s.modApp fun a => { a with ticking := ticking, registration := registration }

theorem Sys.SameButChecklist.still {s t : Sys ε} (h : s.SameButChecklist t) : Still s t := by
  obtain ⟨ticking, registration, rfl⟩ := h
  exact .modApp ⟨rfl, rfl⟩

/-- The checklist does not decide whether an event starts a pipeline. -/
theorem Sys.SameButChecklist.starts_iff {s t : Sys ε} (h : s.SameButChecklist t)
    {event : InternalEvent} {gone : Bool} :
    Starts E ans t (.event event gone) ↔ Starts E ans s (.event event gone) := by
  obtain ⟨ticking, registration, rfl⟩ := h
  rfl

namespace App

variable (E ans)

theorem started_spawnPipeline (userId deviceId : String) (contactIds : List String)
    (identitySecret : Bytes) (core : ε) (s : Sys ε) :
    Started E ans s
      (spawnPipeline E ans userId deviceId contactIds identitySecret core
        (loadContacts ans s)) := by
  have hload : (loadContacts ans s).talk =
      { s.talk with chatList := (loadContacts ans s).app.chatList } := by
    unfold loadContacts
    split <;> rfl
  have hrest : (loadContacts ans s).db = s.db ∧ (loadContacts ans s).queue = s.queue ∧
      (loadContacts ans s).pipelines = s.pipelines := by
    unfold loadContacts
    split <;> exact ⟨rfl, rfl, rfl⟩
  obtain ⟨hdb, hqueue, hpipelines⟩ := hrest
  unfold spawnPipeline
  dsimp only
  constructor
  · split <;> exact hload
  · split <;> exact congrArg (fun ps => (some ps.length, some ps.length, true)) hpipelines
  · split <;> exact hdb
  · split <;> exact hqueue
  · refine ⟨userId, deviceId, contactIds, identitySecret,
      (E.generateOtpks (restoreSessions E ans contactIds s.db core)).2, ?_⟩
    rw [← hdb]
    split <;> exact congrArg (· ++ _) hpipelines

theorem started_startOrchestrator {session : Session} {userId : String}
    (h : Ready E ans session userId) (deviceId : String) (s : Sys ε) :
    Started E ans s (startOrchestrator E ans session userId deviceId s) := by
  obtain ⟨⟨identitySecret, core⟩, h⟩ := h
  unfold startOrchestrator
  rw [h]
  exact started_spawnPipeline E ans _ _ _ _ _ s

theorem still_startOrchestrator {session : Session} {userId : String}
    (h : ¬Ready E ans session userId) (deviceId : String) (s : Sys ε) :
    Still s (startOrchestrator E ans session userId deviceId s) := by
  unfold startOrchestrator
  split
  · exact .setStatus s _
  · next identitySecret core hr => exact absurd ⟨_, hr⟩ h

theorem still_adoptSession (m : AuthSuccess) (s : Sys ε) : Still s (adoptSession m s) :=
  ⟨rfl, rfl, rfl, rfl, rfl⟩

/-- Saving the session changes the directory alone, and succeeds when it is written. -/
theorem saveSession_eq (session : Session) (s : Sys ε) :
    ∃ result dir, saveSession ans session s = (result, { s with dir := dir }) ∧
      (result = .ok () ↔ ans.save = .saved) := by
  unfold saveSession ConfigDir.saveFile
  cases ans.save <;> exact ⟨_, _, rfl, by simp⟩

theorem started_enterMain {m : AuthSuccess} (h : Ready E ans m.fullSession m.userId)
    (s : Sys ε) : Started E ans s (enterMain E ans m s) :=
  (started_startOrchestrator E ans h m.deviceId s).still (.setScreen _ _)

theorem still_enterMain {m : AuthSuccess} (h : ¬Ready E ans m.fullSession m.userId) (s : Sys ε) :
    Still s (enterMain E ans m s) :=
  (still_startOrchestrator E ans h m.deviceId s).trans (.setScreen _ _)

theorem started_saveAndEnter {m : AuthSuccess} (s : Sys ε)
    (hkey : s.app.sessionKey.isSome ∨ s.app.noEncrypt) (hsave : ans.save = .saved)
    (hready : Ready E ans m.fullSession m.userId) (session : Session) :
    Started E ans s (saveAndEnter E ans m session s) := by
  obtain ⟨result, dir, heq, hok⟩ := saveSession_eq ans session s
  have hkey' : (s.app.sessionKey.isSome || s.app.noEncrypt) = true := by simpa using hkey
  have hdir : Still s { s with dir := dir } := ⟨rfl, rfl, rfl, rfl, rfl⟩
  have henter := started_enterMain E ans hready { s with dir := dir }
  unfold saveAndEnter
  rw [if_pos hkey', heq, hok.mpr hsave]
  exact Started.of_still hdir henter

theorem still_saveAndEnter {m : AuthSuccess} {s : Sys ε}
    (h : ¬((s.app.sessionKey.isSome ∨ s.app.noEncrypt) ∧ ans.save = .saved ∧
      Ready E ans m.fullSession m.userId)) (session : Session) :
    Still s (saveAndEnter E ans m session s) := by
  obtain ⟨result, dir, heq, hok⟩ := saveSession_eq ans session s
  have hdir : Still s { s with dir := dir } := ⟨rfl, rfl, rfl, rfl, rfl⟩
  unfold saveAndEnter
  split
  · next hkey =>
    have hkey' : s.app.sessionKey.isSome ∨ s.app.noEncrypt := by simpa using hkey
    rw [heq]
    cases result with
    | error e => exact hdir.trans (.setScreen _ _)
    | ok u =>
      have hready : ¬Ready E ans m.fullSession m.userId := fun hr => h ⟨hkey', hok.mp rfl, hr⟩
      exact hdir.trans (still_enterMain E ans hready _)
  · exact ⟨rfl, rfl, rfl, rfl, rfl⟩

theorem started_success {m : AuthSuccess} {s : Sys ε} {gone : Bool}
    (h : Starts E ans s (.event (.auth (.success m)) gone)) :
    Started E ans s (handleAuthMsg E ans (.success m) s) := by
  obtain ⟨hsave, hready⟩ := h
  have hadopt := still_adoptSession m s
  unfold handleAuthMsg
  dsimp only
  cases hp : m.pendingSave with
  | none => exact Started.of_still hadopt (started_enterMain E ans hready _)
  | some session =>
    obtain ⟨hkey, hsaved⟩ := hsave (by rw [hp]; rfl)
    have hrefresh : Still s (startTokenRefresh session (adoptSession m s)) :=
      hadopt.trans (.spawn _ _)
    have hstart := started_saveAndEnter E ans (startTokenRefresh session (adoptSession m s)) hkey
      hsaved hready session
    exact Started.of_still hrefresh hstart

theorem still_success {m : AuthSuccess} {s : Sys ε} (gone : Bool)
    (h : ¬Starts E ans s (.event (.auth (.success m)) gone)) :
    Still s (handleAuthMsg E ans (.success m) s) := by
  have hadopt := still_adoptSession m s
  unfold handleAuthMsg
  dsimp only
  cases hp : m.pendingSave with
  | none =>
    have hready : ¬Ready E ans m.fullSession m.userId := fun hr =>
      h ⟨fun hs => by simp [hp] at hs, hr⟩
    exact hadopt.trans (still_enterMain E ans hready _)
  | some session =>
    have hrefresh : Still s (startTokenRefresh session (adoptSession m s)) :=
      hadopt.trans (.spawn _ _)
    refine hrefresh.trans (still_saveAndEnter E ans ?_ session)
    rintro ⟨hkey, hsaved, hready⟩
    exact h ⟨fun _ => ⟨hkey, hsaved⟩, hready⟩

theorem started_protect {passphrase : Bytes} {full : Session} (s : Sys ε)
    (hkeys : ∃ keys, E.deriveKeys passphrase ans.masterSalt = .ok keys) (hsave : ans.save = .saved)
    (hfull : s.app.currentSession = some full) (hready : Ready E ans full s.app.userId)
    (session : Session) : Started E ans s (protect E ans passphrase session s) := by
  obtain ⟨keys, hkeys⟩ := hkeys
  unfold protect ConfigDir.saveFile
  rw [hkeys, hsave]
  dsimp only [Sys.modApp]
  rw [hfull]
  refine (Started.of_still ?_ (started_startOrchestrator E ans hready _ _)).still (.setScreen _ _)
  exact ⟨rfl, rfl, rfl, rfl, rfl⟩

theorem still_protect {passphrase : Bytes} {s : Sys ε}
    (h : ∀ full, s.app.currentSession = some full → Ready E ans full s.app.userId →
      ¬((∃ keys, E.deriveKeys passphrase ans.masterSalt = .ok keys) ∧ ans.save = .saved))
    (session : Session) : Still s (protect E ans passphrase session s) := by
  unfold protect
  split
  · exact still_setUnlockError _ s
  · next keys hkeys =>
    unfold ConfigDir.saveFile
    cases hsave : ans.save with
    | saved =>
      dsimp only [Sys.modApp]
      split
      · next full hfull =>
        have hready : ¬Ready E ans full s.app.userId :=
          fun hr => h full hfull hr ⟨⟨keys, hkeys⟩, hsave⟩
        refine .trans ?_ ((still_startOrchestrator E ans hready _ _).trans (.setScreen _ _))
        exact ⟨rfl, rfl, rfl, rfl, rfl⟩
      · exact ⟨rfl, rfl, rfl, rfl, rfl⟩
    | notWritten e => exact ⟨rfl, rfl, rfl, rfl, rfl⟩
    | halfWritten e => exact ⟨rfl, rfl, rfl, rfl, rfl⟩
    | permissionsFailed e => exact ⟨rfl, rfl, rfl, rfl, rfl⟩

/-- The passphrase is taken out of the form before it is looked at. -/
theorem still_takePassphrase (s : Sys ε) : Still s (s.modApp fun a =>
    { a with unlockScreen := s.app.unlockScreen.takePassphrase.2 }) := .modApp ⟨rfl, rfl⟩

theorem started_handleSetPassphrase {key : KeyEvent} {s : Sys ε} (h : Starts E ans s (.key key)) :
    Started E ans s (handleSetPassphrase E ans key s) := by
  obtain ⟨hscreen, hpress, hcode, ⟨htyped, hpending, hkeys, hsave⟩, full, hfull, hready⟩ := h
  obtain ⟨session, hsession⟩ := Option.isSome_iff_exists.mp hpending
  have htyped' : ¬s.app.unlockScreen.takePassphrase.1.isEmpty = true := by simpa using htyped
  unfold handleSetPassphrase
  rw [hcode]
  dsimp only
  rw [if_neg htyped']
  have hsession' : (s.modApp fun a =>
      { a with unlockScreen := s.app.unlockScreen.takePassphrase.2 }).app.pendingSession =
        some session := hsession
  have hstart := started_protect E ans (s.modApp fun a =>
    { a with unlockScreen := s.app.unlockScreen.takePassphrase.2 }) hkeys hsave hfull hready session
  rw [hsession']
  exact Started.of_still (still_takePassphrase s) hstart

theorem still_handleSetPassphrase {key : KeyEvent} {s : Sys ε}
    (hscreen : s.app.screen = .setPassphrase)
    (hpress : key.isPress) (h : ¬Starts E ans s (.key key)) :
    Still s (handleSetPassphrase E ans key s) := by
  unfold handleSetPassphrase
  cases hcode : key.code with
  | backspace => exact ⟨rfl, rfl, rfl, rfl, rfl⟩
  | char c => exact ⟨rfl, rfl, rfl, rfl, rfl⟩
  | enter =>
    dsimp only
    split
    · exact ⟨rfl, rfl, rfl, rfl, rfl⟩
    · next htyped =>
      split
      · exact still_takePassphrase s
      · next session hsession =>
        refine (still_takePassphrase s).trans (still_protect E ans ?_ session)
        intro full hfull hready hsaved
        exact h ⟨hscreen, hpress, hcode, ⟨by simpa using htyped,
          Option.isSome_iff_exists.mpr ⟨session, hsession⟩, hsaved⟩, full, hfull, hready⟩
  | _ => exact .refl s

/-! ### Logging out -/

theorem loggedOut_doLogout {s : Sys ε} (h : (s.dir.clearSession ans.clear).1 = .ok ()) :
    LoggedOut ans s (doLogout ans s) := by
  unfold doLogout
  split
  · next e dir hdir => simp [hdir] at h
  · next u dir hdir =>
    have hdb : (s.streamTrySend s.app.streamTx ans.streamHasRoom .shutdown).db = s.db := by
      cases s.app.streamTx <;> cases ans.streamHasRoom <;> rfl
    refine ⟨?_, rfl, ?_, ?_, rfl⟩
    · show App.talk _ none = _
      simp [App.talk, Sys.modApp, ChatViewPane.new]
    · dsimp only [Sys.modApp]
      split
      · exact .inr (congrArg _ hdb)
      · exact .inl hdb
    · show (s.streamTrySend s.app.streamTx ans.streamHasRoom .shutdown).queue = s.queue
      cases s.app.streamTx <;> cases ans.streamHasRoom <;> rfl

theorem still_doLogout {s : Sys ε} (h : (s.dir.clearSession ans.clear).1 ≠ .ok ()) :
    Still s (doLogout ans s) := by
  unfold doLogout
  split
  · exact ⟨rfl, rfl, rfl, rfl, rfl⟩
  · next u dir hdir => exact absurd (congrArg Prod.fst hdir) h

/-- The key that logs out does nothing else. -/
theorem handleEvent_of_logsOut {key : KeyEvent} {s : Sys ε} (h : LogsOut ans s (.key key)) :
    handleEvent E ans key s = doLogout ans s := by
  obtain ⟨hscreen, hpress, hctrl, hkey, -⟩ := h
  have hsettings : handleEvent E ans key s = handleSettings E ans key s := by
    unfold handleEvent
    simp [hscreen, hpress, hctrl]
  rw [hsettings]
  unfold handleSettings
  obtain hcode | hcode | ⟨hcode, hconfirm⟩ := hkey
  · rw [hcode]
    rfl
  · rw [hcode]
    rfl
  · rw [hcode]
    dsimp only
    rw [hconfirm]
    rfl

/-- Every other key of the settings screen leaves everything here alone. -/
theorem still_handleSettings {key : KeyEvent} {s : Sys ε} (hscreen : s.app.screen = .settings)
    (hpress : key.isPress) (hctrl : ¬(key.code = .char 'c' ∧ key.modifiers = .control))
    (h : ¬LogsOut ans s (.key key)) : Still s (handleSettings E ans key s) := by
  have hclear (hcode : key.code = .char 'l' ∨ key.code = .char 'L' ∨
      key.code = .enter ∧ s.app.settingsScreen.confirm = some .logout) :
      Still s (doLogout ans s) :=
    still_doLogout ans fun hclear => h ⟨hscreen, hpress, hctrl, hcode, hclear⟩
  unfold handleSettings
  split
  · exact .setScreen s _
  · exact ⟨rfl, rfl, rfl, rfl, rfl⟩
  · exact ⟨rfl, rfl, rfl, rfl, rfl⟩
  · exact ⟨rfl, rfl, rfl, rfl, rfl⟩
  · exact ⟨rfl, rfl, rfl, rfl, rfl⟩
  · next hcode =>
    split
    · next action haction =>
      unfold settingsAction
      cases action with
      | back => exact .setScreen s _
      | logout => exact hclear (.inr (.inr ⟨hcode, haction⟩))
      | showSafetyNumber => exact still_openSafetyNumberScreen E ans s
      | exportKeys => exact still_exportIdentityKey ans s
      | showMyQr => exact .setScreen s _
    · exact .refl s
  · next hcode => exact hclear (.inl hcode)
  · next hcode => exact hclear (.inr (.inl hcode))
  · exact .setScreen s _
  · exact .setScreen s _
  · exact still_openSafetyNumberScreen E ans s
  · exact still_openSafetyNumberScreen E ans s
  · exact .refl s

/-! ### Contacts and conversations -/

theorem rest_resubscribe (s : Sys ε) : Rest s (resubscribeStreamToContacts ans s) :=
  .streamTrySend s _ _ (by simp)

@[simp] theorem app_resubscribe (s : Sys ε) :
    (resubscribeStreamToContacts ans s).app = s.app := Sys.app_streamTrySend s _ _ _

@[simp] theorem opened_resubscribe (s : Sys ε) :
    (resubscribeStreamToContacts ans s).opened = s.opened := Sys.opened_streamTrySend s _ _ _

/-- Whoever is added gets a row, if that is possible, and a line; then the worker and the task are
told. -/
theorem finishAddContact_eq (userId username : String) (s : Sys ε) :
    ∃ t u : Sys ε,
      t = { s with
        db := if s.app.readStorage && !ans.sqlFails .upsertContact
          then s.db.upsertContact ⟨userId, username, ""⟩ else s.db
        app := { s.app with
          chatList := s.app.chatList.addContact ⟨userId, username, 0, none⟩ } } ∧
      u = (resubscribeStreamToContacts ans t).orchSend s.app.orchHandle
        (.activeChatChanged userId true) ∧
      u.app = t.app ∧ finishAddContact ans userId username s = u.modApp fun a => { a with
        status := "Added @" ++ username ++ " — opening session"
        contactSearch := .new
        screen := .main } := by
  refine ⟨_, _, rfl, rfl, by simp, ?_⟩
  unfold finishAddContact
  dsimp only
  rw [app_resubscribe]
  split <;> rfl

theorem change_finishAddContact (userId username : String) {s : Sys ε} {input : Input}
    (hinput : (∃ userId username gone, input = .event (.inviteAccepted userId username) gone) ∨
      s.app.screen = .contactSearch) :
    Change ans s input (finishAddContact ans userId username s) := by
  obtain ⟨t, u, ht, hu, happ, heq⟩ := finishAddContact_eq ans userId username s
  let db := if s.app.readStorage && !ans.sqlFails .upsertContact
    then s.db.upsertContact ⟨userId, username, ""⟩ else s.db
  have hdb : db = s.db ∨ db = s.db.upsertContact ⟨userId, username, ""⟩ := by
    simp only [db]
    split
    · exact .inr rfl
    · exact .inl rfl
  have hst : Rest { s with db := db } t := ht ▸ ⟨rfl, rfl, rfl, forall₂_fed_refl _⟩
  have htu : Rest t u := hu ▸ (rest_resubscribe ans t).trans (.orchSend _ _ _)
  refine .added ⟨userId, username, 0, none⟩ db hdb hinput ?_ ?_
  · have hopened : u.opened = s.opened := by rw [hu, ht]; simp
    rw [heq, Sys.talk, Sys.modApp, happ, hopened, ht]
    rfl
  · rw [heq]
    exact hst.trans (htu.trans (.modApp rfl))

/-- Enter, or Ctrl+A, adds the contact that is selected among the results. -/
theorem handleContactSearch_adds {key : KeyEvent} {r : SearchResult} {s : Sys ε}
    (hcode : key.code = .enter ∨ key.code = .char 'a' ∧ key.modifiers = .control)
    (hselected : s.app.contactSearch.selected = some r) :
    handleContactSearch E ans key s = finishAddContact ans r.userId r.username s := by
  unfold handleContactSearch addSelectedSearchResult
  obtain hcode | ⟨hcode, hctrl⟩ := hcode
  · simp [hcode, hselected]
  · simp [hcode, hctrl, hselected]

/-- No other key does. -/
theorem still_handleContactSearch {key : KeyEvent} {s : Sys ε}
    (h : key.code = .enter ∨ key.code = .char 'a' ∧ key.modifiers = .control →
      s.app.contactSearch.selected = none) : Still s (handleContactSearch E ans key s) := by
  have hadd (hnone : s.app.contactSearch.selected = none) :
      addSelectedSearchResult ans s = s := by
    unfold addSelectedSearchResult
    rw [hnone]
  unfold handleContactSearch
  dsimp only
  split
  · exact ⟨rfl, rfl, rfl, rfl, rfl⟩
  · exact ⟨rfl, rfl, rfl, rfl, rfl⟩
  · exact ⟨rfl, rfl, rfl, rfl, rfl⟩
  · exact ⟨rfl, rfl, rfl, rfl, rfl⟩
  · exact ⟨rfl, rfl, rfl, rfl, rfl⟩
  · next hcode =>
    rw [h (.inl hcode)]
    exact still_submitContactSearch E ans s
  · exact ⟨rfl, rfl, rfl, rfl, rfl⟩
  · next c hcode =>
    split
    · next hc =>
      simp only [Bool.and_eq_true, decide_eq_true_eq] at hc
      rw [hadd (h (.inr ⟨hc.1 ▸ hcode, hc.2⟩))]
      exact .refl s
    · exact ⟨rfl, rfl, rfl, rfl, rfl⟩
  · exact .refl s

theorem change_handleContactSearch {key : KeyEvent} {s : Sys ε}
    (hscreen : s.app.screen = .contactSearch) :
    Change ans s (.key key) (handleContactSearch E ans key s) := by
  by_cases hcode : key.code = .enter ∨ key.code = .char 'a' ∧ key.modifiers = .control
  · cases hselected : s.app.contactSearch.selected with
    | none => exact .of_still ans (still_handleContactSearch E ans fun _ => hselected)
    | some r =>
      rw [handleContactSearch_adds E ans hcode hselected]
      exact change_finishAddContact ans _ _ (.inr hscreen)
  · exact .of_still ans (still_handleContactSearch E ans fun h => absurd h hcode)

/-- What deleting the rows of a contact does. -/
theorem deleteRows_cases (userId : String) (s : Sys ε) :
    (deleteRows ans userId s).2 = s ∨ s.app.readStorage = true ∧
      (deleteRows ans userId s).1 = (deleteContact ans userId s.db).1 ∧
      (deleteRows ans userId s).2 =
        markGone userId { s with db := (deleteContact ans userId s.db).2 } := by
  unfold deleteRows
  by_cases h : s.app.readStorage = true
  · rw [if_pos h]
    exact .inr ⟨h, rfl, rfl⟩
  · rw [if_neg h]
    exact .inl rfl

/-- The messages on screen after the rows of a peer may be gone. -/
theorem talk_markGone (userId : String) (s : Sys ε) :
    (markGone userId s).talk = { s.talk with messages := s.app.chatView.messages.map fun m =>
      { m with gone := m.gone || m.peer = some userId } } := rfl

/-- Deleting the rows of a contact marks messages and changes nothing else on screen. -/
theorem talk_deleteRows (userId : String) (s : Sys ε) :
    ∃ messages : List ChatMessage, (deleteRows ans userId s).2.talk =
        { s.talk with messages := messages } ∧
      messages.map (fun m => (m.kind, m.peer)) =
        s.app.chatView.messages.map fun m => (m.kind, m.peer) := by
  obtain h | ⟨-, -, h⟩ := deleteRows_cases ans userId s
  · exact ⟨s.app.chatView.messages, by rw [h]; rfl, rfl⟩
  · refine ⟨_, by rw [h]; exact talk_markGone userId _, ?_⟩
    rw [List.map_map]
    rfl

theorem handles_deleteRows (userId : String) (s : Sys ε) :
    (deleteRows ans userId s).2.app.handles = s.app.handles := by
  obtain h | ⟨-, -, h⟩ := deleteRows_cases ans userId s <;> rw [h]
  rfl

/-- The contact is forgotten and taken out of the list, and the view is emptied if it has to be. -/
theorem removeContact_eq (peerId : String) (s : Sys ε) :
    ∃ u : Sys ε, ((s.app.chatList.contacts.findIdx? fun c => c.id = peerId) = none ∧
          u = s.orchCommand s.app.orchHandle (.forgetContact peerId) ∨
        ∃ i, (s.app.chatList.contacts.findIdx? fun c => c.id = peerId) = some i ∧
          u = (s.orchCommand s.app.orchHandle (.forgetContact peerId)).modApp fun a =>
            { a with chatList := a.chatList.removeAt i }) ∧
      ∃ v : Sys ε, v = resubscribeStreamToContacts ans u ∧
        removeContact ans peerId s = Sys.setStatus
          (if v.app.chatView.contactName = peerId ||
              v.app.chatList.contacts.all fun c => c.id ≠ peerId
          then { v.modApp fun a => { a with chatView := { a.chatView with
              messages := []
              contactName :=
                (v.app.chatList.selectedContact.map Contact.displayName).getD "" } } with
            opened := v.app.chatList.selectedContact.map Contact.id }
          else v) "Node removed." := by
  unfold removeContact
  dsimp only
  rw [Sys.app_orchCommand]
  split
  · next i hi => exact ⟨_, .inr ⟨i, hi, rfl⟩, _, rfl, rfl⟩
  · next hnone => exact ⟨_, .inl ⟨hnone, rfl⟩, _, rfl, rfl⟩

/-- Taking the contact out of the list may empty the view; either way the view fits the list. -/
theorem talk_removeContact (peerId : String) (s : Sys ε) :
    ∃ list, (list = s.app.chatList ∨ ∃ i, list = s.app.chatList.removeAt i) ∧
      ((removeContact ans peerId s).talk = { s.talk with chatList := list } ∧ list.contacts ≠ [] ∨
        (removeContact ans peerId s).talk = { s.talk with
          chatList := list
          messages := []
          opened := list.selectedContact.map Contact.id }) ∧
      Rest s (removeContact ans peerId s) := by
  obtain ⟨u, hu, v, hv, heq⟩ := removeContact_eq ans peerId s
  obtain ⟨hlist, htalk, hrest⟩ :
      (u.app.chatList = s.app.chatList ∨ ∃ i, u.app.chatList = s.app.chatList.removeAt i) ∧
        u.talk = { s.talk with chatList := u.app.chatList } ∧
        Rest (s.orchCommand s.app.orchHandle (.forgetContact peerId)) u := by
    obtain ⟨-, rfl⟩ | ⟨i, -, rfl⟩ := hu
    · exact ⟨.inl (by simp), by simp [Sys.talk, App.talk], .refl _⟩
    · exact ⟨.inr ⟨i, by simp [Sys.modApp]⟩, by simp [Sys.talk, App.talk, Sys.modApp], .modApp rfl⟩
  have hsv : Rest s v := hv ▸ (Rest.orchCommand _ _ _).trans (hrest.trans (rest_resubscribe ans u))
  have hv : v.talk = { s.talk with chatList := u.app.chatList } := by
    rw [← htalk, hv]
    simp [Sys.talk]
  have hchats : v.app.chatList = u.app.chatList := congrArg Talk.chatList hv
  have hfocus : v.app.focus = s.app.focus := congrArg Talk.focus hv
  have hask : v.app.deleteConfirm = s.app.deleteConfirm := congrArg Talk.deleteConfirm hv
  refine ⟨u.app.chatList, hlist, ?_, ?_⟩
  · rw [heq]
    split
    · right
      simp [Sys.talk, App.talk, Sys.modApp, Sys.setStatus, hchats, hfocus, hask]
    · next hkeep =>
      refine .inl ⟨hv, fun hnil => hkeep ?_⟩
      simp [hchats, hnil]
  · rw [heq]
    refine .trans ?_ (.modApp rfl)
    split
    · exact hsv.trans ⟨rfl, rfl, rfl, forall₂_fed_refl _⟩
    · exact hsv

theorem change_confirmDelete {key : KeyEvent} {s : Sys ε} :
    Change ans s (.key key) (confirmDelete ans s) := by
  unfold confirmDelete
  split
  · exact .of_still ans (.refl s)
  · next peerId hask =>
    dsimp only
    split
    · next e t hrows =>
      exact .deleteFailed peerId e t hask hrows rfl (.modApp rfl)
    · next t hrows =>
      obtain ⟨list, hlist, htalk, hrest⟩ := talk_removeContact ans peerId t
      obtain ⟨messages, htalk', -⟩ := talk_deleteRows ans peerId s.answered
      have happ : t.app.chatList = s.app.chatList := by
        have ht : t = (deleteRows ans peerId s.answered).2 := (congrArg Prod.snd hrows).symm
        rw [ht]
        exact congrArg Talk.chatList htalk'
      exact .deleted peerId t list hask hrows (happ ▸ hlist) htalk hrest

theorem change_setFocus {f : Focus} {s : Sys ε} {input : Input}
    (hfocus : f ≠ .contactList → s.app.focus ≠ .contactList ∨ s.talk.selected = none)
    (hask : s.app.deleteConfirm = none) : Change ans s input (setFocus f s) :=
  .talked (.focus f _ hfocus hask) (.modApp rfl)

/-- Opening a conversation shows its history. -/
theorem change_openConversation {c : Contact} {s : Sys ε} {input : Input}
    (hask : s.app.deleteConfirm = none) (hsel : s.talk.selected = some c) :
    Change ans s input (setFocus .chatView (openConversation ans c s)) := by
  have hhistory : history ans c.id (s.orchSend s.app.orchHandle (.activeChatChanged c.id true)) =
      history ans c.id s := by simp [history]
  refine .opened c hask hsel ?_ ?_
  · simp [openConversation, setFocus, Sys.talk, App.talk, Sys.modApp, hhistory]
  · refine .trans (.orchSend s s.app.orchHandle (.activeChatChanged c.id true)) ?_
    exact ⟨rfl, rfl, rfl, forall₂_fed_refl _⟩

theorem change_handleContactListKey {key : KeyEvent} {s : Sys ε}
    (hfocus : s.app.focus = .contactList) (hask : s.app.deleteConfirm = none) :
    Change ans s (.key key) (handleContactListKey ans key s) := by
  have hnavigate (list : ChatListPane) (hcontacts : list.contacts = s.app.chatList.contacts)
      (hvalid : s.app.chatList.Valid → list.Valid) :
      Change ans s (.key key) (s.modApp fun a => { a with chatList := list }) :=
    .talked (.navigate list hfocus hcontacts hvalid) (.modApp rfl)
  unfold handleContactListKey
  split
  · exact hnavigate _ rfl ChatListPane.Valid.next
  · exact hnavigate _ rfl ChatListPane.Valid.next
  · exact hnavigate _ rfl ChatListPane.Valid.prev
  · exact hnavigate _ rfl ChatListPane.Valid.prev
  · split
    · next c _ =>
      split
      · exact .talked (.ask c.id hfocus) (.modApp rfl)
      · exact .of_still ans (.refl s)
    · exact .of_still ans (.refl s)
  · split
    · next c hsel => exact change_openConversation ans hask hsel
    · next hsel => exact change_setFocus ans (fun _ => .inr hsel) hask
  · split
    · next c hsel => exact change_openConversation ans hask hsel
    · next hsel => exact change_setFocus ans (fun _ => .inr hsel) hask
  · split
    · exact .of_still ans (.setScreen s _)
    · exact .of_still ans (.refl s)
  · split
    · exact .of_still ans ⟨rfl, rfl, rfl, rfl, rfl⟩
    · exact .of_still ans (.refl s)
  · split
    · exact .of_still ans ⟨rfl, rfl, rfl, rfl, rfl⟩
    · exact .of_still ans (.refl s)
  · exact .of_still ans (.refl s)

theorem change_handleChatViewKey {key : KeyEvent} {s : Sys ε} (hfocus : s.app.focus = .chatView)
    (hask : s.app.deleteConfirm = none) :
    Change ans s (.key key) (handleChatViewKey key s) := by
  have hmove (f : Focus) : Change ans s (.key key) (setFocus f s) :=
    change_setFocus ans (fun _ => .inl (by simp [hfocus])) hask
  unfold handleChatViewKey
  dsimp only
  split <;> first
    | exact hmove _
    | exact .of_still ans ⟨rfl, rfl, rfl, rfl, rfl⟩

theorem change_sendCompose {key : KeyEvent} {s : Sys ε} (hscreen : s.app.screen = .main)
    (hpress : key.isPress) (hcode : key.code = .enter) (hfocus : s.app.focus = .compose)
    (hask : s.app.deleteConfirm = none) :
    Change ans s (.key key) (sendCompose ans s) := by
  unfold sendCompose
  dsimp only
  split
  · exact .of_still ans ⟨rfl, rfl, rfl, rfl, rfl⟩
  · next hblank =>
    refine .sent _ hfocus hask rfl hblank ⟨hscreen, key, rfl, hpress, hcode⟩ ?_ ?_
    · split <;> simp [Sys.talk, App.talk, Sys.modApp, ChatViewPane.push,
        ChatViewPane.takeCompose, sentMessage]
    · refine .trans
        (.modApp (f := fun a => { a with chatView := s.app.chatView.takeCompose.2 }) rfl) ?_
      refine .trans ?_ (.modApp rfl)
      split
      · exact .orchSend _ _ _
      · exact .refl _

theorem change_handleComposeKey {key : KeyEvent} {s : Sys ε} (hscreen : s.app.screen = .main)
    (hpress : key.isPress) (hfocus : s.app.focus = .compose) (hask : s.app.deleteConfirm = none) :
    Change ans s (.key key) (handleComposeKey ans key s) := by
  unfold handleComposeKey
  split
  · exact change_setFocus ans (fun _ => .inl (by simp [hfocus])) hask
  · next hcode => exact change_sendCompose ans hscreen hpress hcode hfocus hask
  · exact .of_still ans ⟨rfl, rfl, rfl, rfl, rfl⟩
  · exact .of_still ans ⟨rfl, rfl, rfl, rfl, rfl⟩
  · exact .of_still ans (.refl s)

theorem change_handleMain {key : KeyEvent} {s : Sys ε} (hscreen : s.app.screen = .main)
    (hpress : key.isPress) : Change ans s (.key key) (handleMain ans key s) := by
  unfold handleMain
  split
  · split
    · exact change_confirmDelete ans
    · exact .talked .cancel (.modApp rfl)
  · next hask =>
    have hask : s.app.deleteConfirm = none := by simpa using hask
    split
    · exact .of_still ans ⟨rfl, rfl, rfl, rfl, rfl⟩
    · split
      · next hfocus => exact change_handleContactListKey ans hfocus hask
      · next hfocus => exact change_handleChatViewKey ans hfocus hask
      · next hfocus => exact change_handleComposeKey ans hscreen hpress hfocus hask

/-! ### The two inputs -/

/-- A message that arrives is shown. -/
theorem talk_newMessage (peerId messageId text : String) (timestampMs : ℤ) (gone : Bool)
    (s : Sys ε) :
    (handleBridgeEvent ans (.newMessage peerId messageId text timestampMs) gone s).talk =
      { s.talk with
        messages := s.app.chatView.messages ++ [receivedMessage ans peerId text gone] } := by
  simp [handleBridgeEvent, Sys.talk, App.talk, Sys.modApp, ChatViewPane.push, receivedMessage]

theorem change_handleBridgeEvent (event : BridgeEvent) (gone : Bool) (s : Sys ε) :
    Change ans s (.event (.bridge event) gone) (handleBridgeEvent ans event gone s) := by
  cases event with
  | newMessage peerId messageId text timestampMs =>
    have htalk := talk_newMessage ans peerId messageId text timestampMs gone s
    exact .received peerId messageId text timestampMs gone rfl htalk
      ⟨rfl, rfl, rfl, forall₂_fed_refl _⟩
  | messageDelivered messageId => exact .of_still ans (.refl s)
  | streamStatus connected =>
    unfold handleBridgeEvent
    refine .of_still ans (.modApp ⟨?_, ?_⟩) <;> (split <;> rfl)
  | streamReconnecting attempt delayMs => exact .of_still ans ⟨rfl, rfl, rfl, rfl, rfl⟩
  | error e => exact .of_still ans (.setStatus s _)
  | sessionReady contactId => exact .of_still ans (.setStatus s _)

theorem started_handleEvent {key : KeyEvent} {s : Sys ε} (h : Starts E ans s (.key key)) :
    Started E ans s (handleEvent E ans key s) := by
  have heq : handleEvent E ans key s = handleSetPassphrase E ans key s := by
    obtain ⟨hscreen, hpress, hcode, -⟩ := h
    unfold handleEvent
    simp [hscreen, hpress, hcode]
  rw [heq]
  exact started_handleSetPassphrase E ans h

theorem loggedOut_handleEvent {key : KeyEvent} {s : Sys ε} (h : LogsOut ans s (.key key)) :
    LoggedOut ans s (handleEvent E ans key s) := by
  rw [handleEvent_of_logsOut E ans h]
  exact loggedOut_doLogout ans h.2.2.2.2

/-- A key that neither starts a pipeline nor logs out changes something among the chats and in the
search only. -/
theorem handleEvent_cases {key : KeyEvent} {s : Sys ε} (hstart : ¬Starts E ans s (.key key))
    (hlogout : ¬LogsOut ans s (.key key)) :
    Still s (handleEvent E ans key s) ∨ key.isPress = true ∧
      (s.app.screen = .main ∧ handleEvent E ans key s = handleMain ans key s ∨
        s.app.screen = .contactSearch ∧
          handleEvent E ans key s = handleContactSearch E ans key s) := by
  unfold handleEvent
  by_cases hpress : key.isPress = true
  · by_cases hctrl : key.code = .char 'c' ∧ key.modifiers = .control
    · simp only [hpress, hctrl]
      exact .inl ⟨rfl, rfl, rfl, rfl, rfl⟩
    · have hctrl' : (key.code = .char 'c' && key.modifiers = .control) = false := by
        simpa using hctrl
      simp only [hpress, hctrl', Bool.not_true, Bool.false_eq_true, if_false]
      cases hscreen : s.app.screen with
      | startup => exact .inl (.refl s)
      | connecting msg => exact .inl (.refl s)
      | registering => exact .inl (.refl s)
      | authError msg =>
        left
        dsimp only
        split
        · exact ⟨rfl, rfl, rfl, rfl, rfl⟩
        · exact .setScreen s _
      | unlock => exact .inl (still_handleUnlock E ans key s)
      | setPassphrase => exact .inl (still_handleSetPassphrase E ans hscreen hpress hstart)
      | onboarding => exact .inl (still_handleOnboarding key s)
      | deviceLink => exact .inl (still_handleDeviceLink key s)
      | main => exact .inr ⟨trivial, .inl ⟨rfl, rfl⟩⟩
      | settings => exact .inl (still_handleSettings E ans hscreen hpress hctrl hlogout)
      | contactSearch => exact .inr ⟨trivial, .inr ⟨rfl, rfl⟩⟩
      | safetyNumber => exact .inl (.setScreen s _)
      | identityQr => exact .inl (.setScreen s _)
  · simp only [hpress]
    exact .inl (.refl s)

theorem change_handleEvent {key : KeyEvent} {s : Sys ε} (hstart : ¬Starts E ans s (.key key))
    (hlogout : ¬LogsOut ans s (.key key)) :
    Change ans s (.key key) (handleEvent E ans key s) := by
  obtain hstill | ⟨hpress, ⟨hscreen, heq⟩ | ⟨hscreen, heq⟩⟩ :=
    handleEvent_cases E ans hstart hlogout
  · exact .of_still ans hstill
  · rw [heq]
    exact change_handleMain ans hscreen hpress
  · rw [heq]
    exact change_handleContactSearch E ans hscreen

theorem handleEvent_adds {key : KeyEvent} {r : SearchResult} {s : Sys ε}
    (hscreen : s.app.screen = .contactSearch) (hpress : key.isPress)
    (hcode : key.code = .enter ∨ key.code = .char 'a' ∧ key.modifiers = .control)
    (hselected : s.app.contactSearch.selected = some r) :
    handleEvent E ans key s = finishAddContact ans r.userId r.username s := by
  rw [← handleContactSearch_adds E ans hcode hselected]
  unfold handleEvent
  obtain hcode | ⟨hcode, -⟩ := hcode <;> simp [hpress, hcode, hscreen]

/-- A yes to the question whether a contact is to be deleted. -/
theorem handleEvent_confirms {key : KeyEvent} {s : Sys ε} (hscreen : s.app.screen = .main)
    (hpress : key.isPress) (hcode : key.code = .char 'y' ∨ key.code = .char 'Y')
    (hask : s.app.deleteConfirm.isSome) : handleEvent E ans key s = confirmDelete ans s := by
  unfold handleEvent
  obtain hcode | hcode := hcode <;> simp [hscreen, hpress, hcode, handleMain, hask]

/-- The answer of an authentication ends the checklist of a registration, if that is on screen. -/
theorem handleInternal_auth (msg : AuthMsg) (gone : Bool) (s : Sys ε) : ∃ t : Sys ε,
    s.SameButChecklist t ∧
      handleInternal E ans (.auth msg) gone s = handleAuthMsg E ans msg t := by
  by_cases h : s.app.screen = .registering
  · refine ⟨_, ⟨false, { s.app.registration with activeStep := registrationSteps }, rfl⟩, ?_⟩
    simp only [handleInternal, if_pos h]
    rfl
  · refine ⟨_, ⟨s.app.ticking, s.app.registration, rfl⟩, ?_⟩
    simp only [handleInternal, if_neg h]
    rfl

theorem started_handleInternal {event : InternalEvent} {gone : Bool} {s : Sys ε}
    (h : Starts E ans s (.event event gone)) :
    Started E ans s (handleInternal E ans event gone s) := by
  cases event with
  | auth msg =>
    obtain ⟨t, ht, heq⟩ := handleInternal_auth E ans msg gone s
    cases msg with
    | success m =>
      rw [heq]
      exact Started.of_still ht.still (started_success E ans (ht.starts_iff.mpr h))
    | failure msg => exact h.elim
  | _ => exact h.elim

/-- An event that starts no pipeline changes something only if it comes from the bridge or tells
that an invite was accepted. -/
theorem still_handleInternal {event : InternalEvent} {gone : Bool} {s : Sys ε}
    (hstart : ¬Starts E ans s (.event event gone)) (hbridge : ∀ e, event ≠ .bridge e)
    (hinvite : ∀ userId username, event ≠ .inviteAccepted userId username) :
    Still s (handleInternal E ans event gone s) := by
  cases event with
  | auth msg =>
    obtain ⟨t, ht, heq⟩ := handleInternal_auth E ans msg gone s
    rw [heq]
    refine ht.still.trans ?_
    cases msg with
    | success m => exact still_success E ans gone fun h => hstart (ht.starts_iff.mp h)
    | failure msg => exact still_failure E ans msg t
  | tokenRefresh msg => exact still_handleTokenRefreshMsg ans msg s
  | bridge event => exact absurd rfl (hbridge event)
  | contactSearchResult results => exact ⟨rfl, rfl, rfl, rfl, rfl⟩
  | contactSearchError msg => exact ⟨rfl, rfl, rfl, rfl, rfl⟩
  | inviteAccepted userId username => exact absurd rfl (hinvite userId username)
  | registrationStep reached => exact ⟨rfl, rfl, rfl, rfl, rfl⟩
  | tick =>
    unfold handleInternal
    dsimp only
    split
    · exact ⟨rfl, rfl, rfl, rfl, rfl⟩
    · exact .refl s
  | streamAuthRequired => exact still_refreshTokenNow s
  | p2pStatus peerId connected latencyMs isRelay =>
    exact still_handleP2pStatus peerId connected latencyMs isRelay s

theorem change_handleInternal {event : InternalEvent} {gone : Bool} {s : Sys ε}
    (hstart : ¬Starts E ans s (.event event gone)) :
    Change ans s (.event event gone) (handleInternal E ans event gone s) := by
  cases event with
  | bridge event => exact change_handleBridgeEvent ans event gone s
  | inviteAccepted userId username =>
    exact change_finishAddContact ans userId username (.inl ⟨userId, username, gone, rfl⟩)
  | _ => exact .of_still ans (still_handleInternal E ans hstart nofun nofun)

/-- Every input makes one of the moves. -/
theorem handle_move (s : Sys ε) (input : Input) : Move E ans s input (handle E ans s input) := by
  by_cases hstart : Starts E ans s input
  · cases input with
    | key key => exact .started hstart (started_handleEvent E ans hstart)
    | event event gone => exact .started hstart (started_handleInternal E ans hstart)
  · by_cases hlogout : LogsOut ans s input
    · cases input with
      | key key => exact .loggedOut hlogout (loggedOut_handleEvent E ans hlogout)
      | event event gone => exact hlogout.elim
    · cases input with
      | key key => exact .changed hstart hlogout (change_handleEvent E ans hstart hlogout)
      | event event gone => exact .changed hstart hlogout (change_handleInternal E ans hstart)

end App

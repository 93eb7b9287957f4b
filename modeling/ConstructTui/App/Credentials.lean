import ConstructTui.App.Identity

/-!
# The credentials in use

The access token is kept in three places while a user is signed in: the app's own copy, the one the
shared client sends with every request, and the session that is written to disk. Signing in and a
refresh write all of them, logging out clears them; every other input leaves them alone and starts
tasks at most. The settings keep the device and the key that invites are made with.

## Main definitions

* `Sys.keyring`: the credentials in use.
* `Sys.Retains`, `Sys.Adopts`: the credentials are left alone, or become others, and tasks are
  started at most.
* `Sys.Coherent`: the copies agree, and go on to agree when the events that wait are taken.

## Main results

* `App.retains_handleInternal`, `App.signs_handleEvent`: what an input does to the credentials.
* `Sys.tokens_agree`: in every run, the copies agree.
-/

variable {ε : Type} {E : AppExternals ε} {ans : Answers ε}

/-- Whose invites the settings make, for which server, and the key that signs them. -/
structure Badge where
  server : String
  deviceId : String
  userId : String
  signingKeyHex : String
  deriving DecidableEq

def SettingsScreen.badge (p : SettingsScreen) : Badge :=
  ⟨p.server, p.deviceId, p.userId, p.signingKeyHex⟩

/-- The credentials of the app, of the shared client and of the settings. -/
structure Keyring where
  userId : String
  deviceId : String
  accessToken : String
  currentSession : Option Session
  token : Option String
  serverUrl : String
  badge : Badge
  deriving DecidableEq

/-- While a user is signed in, every copy of the access token is the one of the session in memory,
and the device and the key of the invites are the ones of that session. -/
structure Keyring.Agree (c : Keyring) : Prop where
  accessToken : ∀ session ∈ c.currentSession, c.accessToken = session.accessToken
  token : ∀ session ∈ c.currentSession, c.token = some session.accessToken
  deviceId : ∀ session ∈ c.currentSession, c.deviceId = session.deviceId
  badge : ∀ session ∈ c.currentSession,
    c.badge = ⟨c.serverUrl, c.deviceId, c.userId, session.signingKeyHex⟩
  unsigned : c.currentSession = none → c.badge.signingKeyHex = ""

/-- Without a user. -/
def Keyring.signedOut (serverUrl : String) : Keyring :=
  ⟨"", "", "", none, none, serverUrl, ⟨serverUrl, "—", "—", ""⟩⟩

theorem Keyring.Agree.signedOut (serverUrl : String) : (Keyring.signedOut serverUrl).Agree :=
  ⟨nofun, nofun, nofun, nofun, fun _ => rfl⟩

/-- With the user of an authentication. -/
def Keyring.signedIn (serverUrl : String) (m : AuthSuccess) : Keyring :=
  ⟨m.userId, m.deviceId, m.accessToken, some m.fullSession, some m.accessToken, serverUrl,
    ⟨serverUrl, m.deviceId, m.userId, m.fullSession.signingKeyHex⟩⟩

theorem Keyring.Agree.signedIn (serverUrl : String) {m : AuthSuccess}
    (htoken : m.accessToken = m.fullSession.accessToken)
    (hdevice : m.deviceId = m.fullSession.deviceId) : (Keyring.signedIn serverUrl m).Agree := by
  refine ⟨?_, ?_, ?_, ?_, nofun⟩ <;> rintro _ ⟨⟩
  · exact htoken
  · exact congrArg some htoken
  · exact hdevice
  · rfl

/-- Refreshed tokens replace the old ones everywhere. -/
theorem Keyring.Agree.refreshed {c : Keyring} (h : c.Agree) (accessToken refreshToken : String)
    (expiresAt : ℤ) : Keyring.Agree { c with
      accessToken := accessToken
      currentSession := c.currentSession.map fun session =>
        session.withTokens accessToken refreshToken expiresAt
      token := some accessToken } := by
  refine ⟨?_, ?_, ?_, ?_, fun hnone => h.unsigned (Option.map_eq_none_iff.mp hnone)⟩ <;>
    intro session hsession <;> obtain ⟨old, hold, rfl⟩ := Option.map_eq_some_iff.mp hsession
  · rfl
  · rfl
  · exact h.deviceId old hold
  · exact h.badge old hold

/-- What is checked before a task is started: names and tokens are trimmed and not empty, a name
that is looked for has the characters of one, and an invite has been read and has not expired. -/
def BackgroundTask.Checked (E : AppExternals ε) : BackgroundTask → Prop
  | .register username => ∀ name ∈ username, name ≠ "" ∧ ∃ raw, name = String.ofList (trimChars raw)
  | .link token => token ≠ "" ∧ ∃ raw, token = String.ofList (trimChars raw)
  | .search query => usernameIsSearchable query ∧ ∃ raw, query = normalizeUsername raw
  | .redeem invite username => username = App.inviteUsername invite ∧
    ∃ raw now, E.parseInvite raw now = .ok invite ∧ invite.isExpired now = false
  | _ => True

namespace Sys

def keyring (s : Sys ε) : Keyring :=
  ⟨s.app.userId, s.app.deviceId, s.app.accessToken, s.app.currentSession, s.grpc.token,
    s.app.serverUrl, s.app.settingsScreen.badge⟩

/-- A task that has been started and has done nothing yet. -/
def started (task : BackgroundTask) : Running := ⟨task, false, none⟩

/-- The credentials are left alone, and tasks are started at most. -/
structure Retains (E : AppExternals ε) (s s' : Sys ε) : Prop where
  keyring : s'.keyring = s.keyring
  queue : s'.queue.map Queued.event = s.queue.map Queued.event
  tasks : ∃ ts : List BackgroundTask, (∀ t ∈ ts, t.Checked E) ∧ s'.tasks = s.tasks ++ ts.map started

namespace Retains

theorem refl (s : Sys ε) : Retains E s s := ⟨rfl, rfl, [], by simp, by simp⟩

theorem trans {s t u : Sys ε} (h : Retains E s t) (h' : Retains E t u) : Retains E s u := by
  obtain ⟨ts, hchecked, hts⟩ := h.tasks
  obtain ⟨ts', hchecked', hts'⟩ := h'.tasks
  exact ⟨h'.keyring.trans h.keyring, h'.queue.trans h.queue, ts ++ ts',
    List.forall_mem_append.mpr ⟨hchecked, hchecked'⟩, by simp [hts', hts]⟩

/-- Nothing of all that changes. -/
theorem of_eq {s s' : Sys ε} (hkeyring : s'.keyring = s.keyring)
    (hqueue : s'.queue.map Queued.event = s.queue.map Queued.event) (htasks : s'.tasks = s.tasks) :
    Retains E s s' := ⟨hkeyring, hqueue, [], by simp, by simp [htasks]⟩

theorem modApp {s : Sys ε} {f : App → App} (h : (s.modApp f).keyring = s.keyring) :
    Retains E s (s.modApp f) := .of_eq h rfl rfl

theorem setScreen {s t : Sys ε} (h : Retains E s t) (screen : Screen) :
    Retains E s (t.setScreen screen) :=
  h.trans (.of_eq rfl rfl rfl)

/-- A task is started and nothing else changes. -/
theorem starting {s s' : Sys ε} (task : BackgroundTask) (h : task.Checked E)
    (hkeyring : s'.keyring = s.keyring)
    (hqueue : s'.queue.map Queued.event = s.queue.map Queued.event)
    (htasks : s'.tasks = s.tasks ++ [started task]) : Retains E s s' :=
  ⟨hkeyring, hqueue, [task], List.forall_mem_singleton.mpr h, htasks⟩

theorem spawn (s : Sys ε) {task : BackgroundTask} (h : task.Checked E) :
    Retains E s (s.spawn task) := .starting task h rfl rfl rfl

end Retains

theorem SameButChecklist.retains {s t : Sys ε} (h : s.SameButChecklist t) : Retains E s t := by
  obtain ⟨ticking, registration, rfl⟩ := h
  exact .modApp rfl

/-- The credentials become others, and tasks are started at most. -/
structure Adopts (E : AppExternals ε) (c : Keyring) (s s' : Sys ε) : Prop where
  keyring : s'.keyring = c
  queue : s'.queue.map Queued.event = s.queue.map Queued.event
  tasks : ∃ ts : List BackgroundTask, (∀ t ∈ ts, t.Checked E) ∧ s'.tasks = s.tasks ++ ts.map started

theorem Adopts.retains {c : Keyring} {s t u : Sys ε} (h : Adopts E c s t) (h' : Retains E t u) :
    Adopts E c s u := by
  obtain ⟨ts, hchecked, hts⟩ := h.tasks
  obtain ⟨ts', hchecked', hts'⟩ := h'.tasks
  exact ⟨h'.keyring.trans h.keyring, h'.queue.trans h.queue, ts ++ ts',
    List.forall_mem_append.mpr ⟨hchecked, hchecked'⟩, by simp [hts', hts]⟩

theorem Retains.adopts {s t u : Sys ε} {c : Keyring} (h : Retains E s t) (h' : Adopts E c t u) :
    Adopts E c s u := by
  obtain ⟨ts, hchecked, hts⟩ := h.tasks
  obtain ⟨ts', hchecked', hts'⟩ := h'.tasks
  exact ⟨h'.keyring, h'.queue.trans h.queue, ts ++ ts',
    List.forall_mem_append.mpr ⟨hchecked, hchecked'⟩, by simp [hts', hts]⟩

@[simp] theorem tasks_orchSend (s : Sys ε) (handle : Option ℕ) (event : IncomingEvent) :
    (s.orchSend handle event).tasks = s.tasks := by cases handle <;> rfl

@[simp] theorem grpc_orchSend (s : Sys ε) (handle : Option ℕ) (event : IncomingEvent) :
    (s.orchSend handle event).grpc = s.grpc := by cases handle <;> rfl

theorem retains_orchSend (s : Sys ε) (handle : Option ℕ) (event : IncomingEvent) :
    Retains E s (s.orchSend handle event) := by
  cases handle with
  | none => exact .refl s
  | some i => exact .of_eq rfl rfl rfl

theorem retains_orchCommand (s : Sys ε) (handle : Option ℕ) (cmd : OrchestratorCommand) :
    Retains E s (s.orchCommand handle cmd) := by
  cases handle with
  | none => exact .refl s
  | some i => exact .of_eq rfl rfl rfl

theorem retains_streamTrySend (s : Sys ε) (handle : Option ℕ) (hasRoom : Bool) (cmd : StreamCmd) :
    Retains E s (s.streamTrySend handle hasRoom cmd) := by
  cases handle with
  | none => exact .refl s
  | some i => cases hasRoom <;> exact .of_eq rfl rfl rfl

end Sys

namespace App

open Sys

variable (E ans)

/-! ### Keys before there is a session -/

theorem retains_startupCheck (s : Sys ε) : Retains E s (startupCheck ans s) := by
  unfold startupCheck
  dsimp only
  split
  · exact .of_eq rfl rfl rfl
  · exact .starting .restoreFromDisk trivial rfl rfl rfl
  · exact .of_eq rfl rfl rfl

theorem retains_handleOnboarding (key : KeyEvent) (s : Sys ε) :
    Retains E s (handleOnboarding key s) := by
  unfold handleOnboarding
  split
  case h_3 =>
    refine .starting (.register _) ?_ rfl rfl rfl
    intro name hname
    split at hname
    · cases hname
    · next hne =>
      obtain rfl := Option.some.inj hname
      exact ⟨hne, _, rfl⟩
  case h_5 => split <;> exact .of_eq rfl rfl rfl
  all_goals exact .of_eq rfl rfl rfl

theorem retains_handleDeviceLink (key : KeyEvent) (s : Sys ε) :
    Retains E s (handleDeviceLink key s) := by
  unfold handleDeviceLink
  split
  · split <;> exact .of_eq rfl rfl rfl
  · dsimp only
    split
    · exact .of_eq rfl rfl rfl
    · next htoken => exact .starting (.link _) ⟨htoken, _, rfl⟩ rfl rfl rfl
  · exact .of_eq rfl rfl rfl
  · split
    · exact .of_eq rfl rfl rfl
    · split <;> exact .of_eq rfl rfl rfl
  · exact .of_eq rfl rfl rfl

theorem retains_unlock (passphrase : Bytes) (s : Sys ε) :
    Retains E s (unlock E ans passphrase s) := by
  unfold unlock
  dsimp only
  split
  · exact .of_eq rfl rfl rfl
  · split
    · split
      · exact .starting (.authenticate _ _) trivial rfl rfl rfl
      · exact .of_eq rfl rfl rfl
      · exact .of_eq rfl rfl rfl
    · exact .of_eq rfl rfl rfl
    · exact .of_eq rfl rfl rfl

theorem retains_handleUnlock (key : KeyEvent) (s : Sys ε) :
    Retains E s (handleUnlock E ans key s) := by
  unfold handleUnlock
  cases key.code with
  | backspace => exact .of_eq rfl rfl rfl
  | char c => exact .of_eq rfl rfl rfl
  | enter =>
    dsimp only
    split
    · exact .of_eq rfl rfl rfl
    · have htaken : Retains E s (s.modApp fun a => { a with
          unlockScreen := s.app.unlockScreen.takePassphrase.2 }) := .of_eq rfl rfl rfl
      exact htaken.trans (retains_unlock E ans _ _)
  | _ => exact .refl s

/-! ### Starting a pipeline -/

theorem retains_loadContacts (s : Sys ε) : Retains E s (loadContacts ans s) := by
  unfold loadContacts
  split <;> exact .of_eq rfl rfl rfl

theorem retains_startOrchestrator (session : Session) (userId deviceId : String) (s : Sys ε) :
    Retains E s (startOrchestrator E ans session userId deviceId s) := by
  unfold startOrchestrator
  split
  · exact .of_eq rfl rfl rfl
  · refine (retains_loadContacts E ans s).trans ?_
    unfold spawnPipeline
    dsimp only
    split
    · exact .of_eq rfl rfl rfl
    · exact .starting (.uploadPreKeys _ _) trivial rfl rfl rfl

theorem retains_enterMain (m : AuthSuccess) (s : Sys ε) : Retains E s (enterMain E ans m s) :=
  (retains_startOrchestrator E ans m.fullSession m.userId m.deviceId s).trans (.of_eq rfl rfl rfl)

theorem retains_protect (passphrase : Bytes) (session : Session) (s : Sys ε) :
    Retains E s (protect E ans passphrase session s) := by
  unfold protect
  dsimp only
  split
  · exact .of_eq rfl rfl rfl
  · split
    · exact .of_eq rfl rfl rfl
    · split
      · refine Retains.setScreen (.trans ?_ (retains_startOrchestrator E ans _ _ _ _)) _
        exact .of_eq rfl rfl rfl
      · exact .of_eq rfl rfl rfl

theorem retains_handleSetPassphrase (key : KeyEvent) (s : Sys ε) :
    Retains E s (handleSetPassphrase E ans key s) := by
  unfold handleSetPassphrase
  cases key.code with
  | backspace => exact .of_eq rfl rfl rfl
  | char c => exact .of_eq rfl rfl rfl
  | enter =>
    dsimp only
    split
    · exact .of_eq rfl rfl rfl
    · split
      · exact .of_eq rfl rfl rfl
      · have htaken : Retains E s (s.modApp fun a => { a with
            unlockScreen := s.app.unlockScreen.takePassphrase.2 }) := .of_eq rfl rfl rfl
        exact htaken.trans (retains_protect E ans _ _ _)
  | _ => exact .refl s

/-! ### The chats -/

theorem retains_setFocus (f : Focus) (s : Sys ε) : Retains E s (setFocus f s) := .of_eq rfl rfl rfl

theorem retains_openConversation (c : Contact) (s : Sys ε) :
    Retains E s (openConversation ans c s) :=
  (retains_orchSend s s.app.orchHandle (.activeChatChanged c.id true)).trans (.of_eq rfl rfl rfl)

theorem retains_sendCompose (s : Sys ε) : Retains E s (sendCompose ans s) := by
  have htaken :
      Retains E s (s.modApp fun a => { a with chatView := s.app.chatView.takeCompose.2 }) :=
    .of_eq rfl rfl rfl
  unfold sendCompose
  dsimp only
  split
  · exact htaken
  · refine Retains.trans ?_ (.modApp rfl)
    split
    · exact htaken.trans (retains_orchSend _ _ _)
    · exact htaken

theorem retains_resubscribe (s : Sys ε) : Retains E s (resubscribeStreamToContacts ans s) :=
  retains_streamTrySend s _ _ _

theorem retains_markGone (userId : String) (s : Sys ε) : Retains E s (markGone userId s) := by
  refine .of_eq rfl ?_ rfl
  show (s.queue.map _).map Queued.event = s.queue.map Queued.event
  rw [List.map_map]
  rfl

theorem retains_deleteRows (userId : String) (s : Sys ε) :
    Retains E s (deleteRows ans userId s).2 := by
  unfold deleteRows
  split
  · have hdb : Retains E s { s with db := (deleteContact ans userId s.db).2 } := .of_eq rfl rfl rfl
    exact hdb.trans (retains_markGone E userId _)
  · exact .refl s

theorem retains_removeContact (peerId : String) (s : Sys ε) :
    Retains E s (removeContact ans peerId s) := by
  have hcommand := retains_orchCommand (E := E) s s.app.orchHandle (.forgetContact peerId)
  have hshown (t : Sys ε) : Retains E s t →
      Retains E s ((if t.app.chatView.contactName = peerId ||
          t.app.chatList.contacts.all fun c => c.id ≠ peerId
        then
          let next := t.app.chatList.selectedContact
          { t.modApp fun a => { a with chatView := { a.chatView with
              messages := [], contactName := (next.map Contact.displayName).getD "" } } with
            opened := next.map Contact.id }
        else t).setStatus "Node removed.") := by
    intro ht
    split <;> exact ht.trans (.of_eq rfl rfl rfl)
  unfold removeContact
  refine hshown _ (Retains.trans ?_ (retains_resubscribe E ans _))
  split
  · exact hcommand.trans (.modApp rfl)
  · exact hcommand

theorem retains_confirmDelete (s : Sys ε) : Retains E s (confirmDelete ans s) := by
  unfold confirmDelete
  split
  · exact .refl s
  · next peerId _ =>
    have hanswered : Retains E s (s.modApp fun a => { a with deleteConfirm := none }) :=
      .of_eq rfl rfl rfl
    have hrows := hanswered.trans (retains_deleteRows E ans peerId _)
    dsimp only
    split
    · next h =>
      rw [h] at hrows
      exact hrows.trans (.modApp rfl)
    · next h =>
      rw [h] at hrows
      exact hrows.trans (retains_removeContact E ans peerId _)

theorem retains_finishAddContact (userId username : String) (s : Sys ε) :
    Retains E s (finishAddContact ans userId username s) := by
  obtain ⟨t, u, ht, hu, -, heq⟩ := finishAddContact_eq ans userId username s
  have hst : Retains E s t := ht ▸ .of_eq rfl rfl rfl
  have htu : Retains E t u := hu ▸ (retains_resubscribe E ans t).trans (retains_orchSend _ _ _)
  exact heq ▸ (hst.trans htu).trans (.modApp rfl)

theorem retains_submitContactSearch (s : Sys ε) : Retains E s (submitContactSearch E ans s) := by
  unfold submitContactSearch
  dsimp only
  split
  · unfold redeemPastedInvite
    split
    · exact .of_eq rfl rfl rfl
    · next invite hparse =>
      split
      · exact .of_eq rfl rfl rfl
      · next hvalid =>
        refine .starting (.redeem _ _) ⟨rfl, _, ans.nowSecs, hparse, ?_⟩ rfl rfl rfl
        simpa using hvalid
  · split
    · exact .of_eq rfl rfl rfl
    · next hname =>
      refine .starting (.search _) ⟨?_, _, rfl⟩ rfl rfl rfl
      simpa using hname

theorem retains_handleContactSearch (key : KeyEvent) (s : Sys ε) :
    Retains E s (handleContactSearch E ans key s) := by
  have hadd : Retains E s (addSelectedSearchResult ans s) := by
    unfold addSelectedSearchResult
    split
    · exact .refl s
    · exact retains_finishAddContact E ans _ _ s
  unfold handleContactSearch
  dsimp only
  split
  case h_6 =>
    split
    · exact hadd
    · exact retains_submitContactSearch E ans s
  case h_8 =>
    split
    · exact hadd
    · exact .modApp rfl
  case h_9 => exact .refl s
  all_goals exact .modApp rfl

theorem retains_handleContactListKey (key : KeyEvent) (s : Sys ε) :
    Retains E s (handleContactListKey ans key s) := by
  unfold handleContactListKey
  split
  case h_5 =>
    split
    · split <;> exact .of_eq rfl rfl rfl
    · exact .refl s
  case h_6 | h_7 =>
    refine Retains.trans ?_ (retains_setFocus E _ _)
    split
    · exact retains_openConversation E ans _ s
    · exact .refl s
  case h_8 | h_9 | h_10 => split <;> exact .of_eq rfl rfl rfl
  all_goals exact .of_eq rfl rfl rfl

theorem retains_handleMain (key : KeyEvent) (s : Sys ε) : Retains E s (handleMain ans key s) := by
  unfold handleMain
  split
  · split
    · exact retains_confirmDelete E ans s
    · exact .modApp rfl
  · split
    · exact .modApp rfl
    · split
      · exact retains_handleContactListKey E ans key s
      · unfold handleChatViewKey
        dsimp only
        split <;> exact .of_eq rfl rfl rfl
      · unfold handleComposeKey
        split
        case h_2 => exact retains_sendCompose E ans s
        all_goals exact .of_eq rfl rfl rfl

/-! ### Signing in and out -/

theorem retains_saveSession (session : Session) (s : Sys ε) :
    Retains E s (saveSession ans session s).2 := .of_eq rfl rfl rfl

theorem retains_saveAndEnter (m : AuthSuccess) (session : Session) (s : Sys ε) :
    Retains E s (saveAndEnter E ans m session s) := by
  have hsaved := retains_saveSession E ans session s
  unfold saveAndEnter
  split
  · split
    · next h =>
      rw [h] at hsaved
      exact hsaved.trans (retains_enterMain E ans m _)
    · next h =>
      rw [h] at hsaved
      exact hsaved.setScreen _
  · exact .modApp rfl

/-- A successful authentication brings the credentials of its session. -/
theorem adopts_success (m : AuthSuccess) (s : Sys ε) :
    Adopts E (.signedIn s.app.serverUrl m) s (handleAuthMsg E ans (.success m) s) := by
  have hadopted : Adopts E (.signedIn s.app.serverUrl m) s (adoptSession m s) :=
    ⟨rfl, rfl, [], by simp, (List.append_nil _).symm⟩
  unfold handleAuthMsg
  dsimp only
  split
  · next session _ =>
    have hspawned : Retains E (adoptSession m s) (startTokenRefresh session (adoptSession m s)) :=
      .spawn _ trivial
    exact hadopted.retains (hspawned.trans (retains_saveAndEnter E ans m session _))
  · exact hadopted.retains (retains_enterMain E ans m _)

/-- Refreshed tokens go to the app, to the client, and to the session in memory. -/
theorem adopts_refreshed (accessToken refreshToken : String) (expiresAt : ℤ) (s : Sys ε) :
    Adopts E { s.keyring with
        accessToken := accessToken
        currentSession := s.app.currentSession.map fun session =>
          session.withTokens accessToken refreshToken expiresAt
        token := some accessToken } s
      (handleTokenRefreshMsg ans (.refreshed accessToken refreshToken expiresAt) s) := by
  unfold handleTokenRefreshMsg
  dsimp only [Sys.modApp]
  split
  · next h => exact ⟨by rw [h]; simp [keyring, h], rfl, [], by simp, by simp⟩
  · next session h =>
    rw [h]
    unfold persistSessionBackground
    dsimp only
    split <;> exact ⟨rfl, rfl, [.tokenRefresh _ _ _], List.forall_mem_singleton.mpr trivial, rfl⟩

theorem retains_startDeviceReauth (s : Sys ε) : Retains E s (startDeviceReauth s) := by
  unfold startDeviceReauth
  split
  · exact .modApp rfl
  · exact .spawn s trivial

theorem retains_refreshTokenNow (s : Sys ε) : Retains E s (refreshTokenNow s) := by
  unfold refreshTokenNow
  split
  · exact .refl s
  · exact .spawn s trivial

/-- Logging out clears the credentials, unless the session file is still there. -/
theorem signs_doLogout (s : Sys ε) :
    Retains E s (doLogout ans s) ∨ (s.dir.clearSession ans.clear).1 = .ok () ∧
      Adopts E (.signedOut s.app.serverUrl) s (doLogout ans s) := by
  unfold doLogout
  split
  · exact .inl (.of_eq rfl rfl rfl)
  · next h =>
    have hsent := retains_streamTrySend (E := E) s s.app.streamTx ans.streamHasRoom .shutdown
    have hserver : (s.streamTrySend s.app.streamTx ans.streamHasRoom .shutdown).app.serverUrl =
        s.app.serverUrl := congrArg Keyring.serverUrl hsent.keyring
    exact .inr ⟨by rw [h], by rw [← hserver]; rfl, hsent.queue, hsent.tasks⟩

theorem retains_openSafetyNumberScreen (s : Sys ε) :
    Retains E s (openSafetyNumberScreen E ans s) := by
  unfold openSafetyNumberScreen
  split
  · exact .modApp rfl
  · split <;> exact .of_eq rfl rfl rfl

theorem retains_exportIdentityKey (s : Sys ε) : Retains E s (exportIdentityKey ans s) := by
  unfold exportIdentityKey
  split
  · exact .modApp rfl
  · split <;> exact .of_eq rfl rfl rfl

theorem signs_handleSettings (key : KeyEvent) (s : Sys ε) :
    Retains E s (handleSettings E ans key s) ∨
      ((key.code = .char 'l' ∨ key.code = .char 'L' ∨
          key.code = .enter ∧ s.app.settingsScreen.confirm = some .logout) ∧
        (s.dir.clearSession ans.clear).1 = .ok ()) ∧
      Adopts E (.signedOut s.app.serverUrl) s (handleSettings E ans key s) := by
  have hlogout (hkey : key.code = .char 'l' ∨ key.code = .char 'L' ∨
      key.code = .enter ∧ s.app.settingsScreen.confirm = some .logout) :=
    (signs_doLogout E ans s).imp_right fun h => And.intro (And.intro hkey h.1) h.2
  unfold handleSettings
  split
  case h_6 hcode =>
    split
    · next action hconfirm =>
      cases action with
      | back => exact .inl (.of_eq rfl rfl rfl)
      | logout => exact hlogout (.inr (.inr ⟨hcode, hconfirm⟩))
      | showSafetyNumber => exact .inl (retains_openSafetyNumberScreen E ans s)
      | exportKeys => exact .inl (retains_exportIdentityKey E ans s)
      | showMyQr => exact .inl (.of_eq rfl rfl rfl)
    · exact .inl (.refl s)
  case h_7 hcode => exact hlogout (.inl hcode)
  case h_8 hcode => exact hlogout (.inr (.inl hcode))
  case h_11 | h_12 => exact .inl (retains_openSafetyNumberScreen E ans s)
  all_goals exact .inl (.of_eq rfl rfl rfl)

/-! ### Every input -/

/-- What a key does to the credentials. -/
theorem signs_handleEvent (key : KeyEvent) (s : Sys ε) :
    Retains E s (handleEvent E ans key s) ∨ LogsOut ans s (.key key) ∧
      Adopts E (.signedOut s.app.serverUrl) s (handleEvent E ans key s) := by
  unfold handleEvent
  split
  · exact .inl (.refl s)
  · next hpress =>
    split
    · exact .inl (.modApp rfl)
    · next hcontrol =>
      split
      · exact .inl (.refl s)
      · exact .inl (.refl s)
      · exact .inl (.refl s)
      · split <;> exact .inl (.of_eq rfl rfl rfl)
      · exact .inl (retains_handleUnlock E ans key s)
      · exact .inl (retains_handleSetPassphrase E ans key s)
      · exact .inl (retains_handleOnboarding E key s)
      · exact .inl (retains_handleDeviceLink E key s)
      · exact .inl (retains_handleMain E ans key s)
      · next hscreen =>
        refine (signs_handleSettings E ans key s).imp_right fun ⟨hkey, hadopts⟩ => ⟨?_, hadopts⟩
        exact ⟨hscreen, by simpa using hpress, by simpa using hcontrol, hkey⟩
      · exact .inl (retains_handleContactSearch E ans key s)
      · exact .inl (.modApp rfl)
      · exact .inl (.modApp rfl)

/-- An event that brings no tokens leaves the credentials alone. -/
theorem retains_handleInternal {event : InternalEvent} (h : event.bringsTokens = false)
    (gone : Bool) (s : Sys ε) : Retains E s (handleInternal E ans event gone s) := by
  cases event with
  | auth msg =>
    cases msg with
    | success m => cases h
    | failure msg =>
      obtain ⟨v, hv, heq⟩ := handleInternal_auth E ans (.failure msg) gone s
      obtain ⟨screen, -, hfailure⟩ := handleAuthMsg_failure E ans msg v
      rw [heq, hfailure]
      exact hv.retains.trans (.modApp rfl)
  | tokenRefresh msg =>
    cases msg with
    | refreshed accessToken refreshToken expiresAt => cases h
    | failedTransport e => exact .refl s
    | failedAuth e => exact retains_startDeviceReauth E s
  | bridge event =>
    cases event with
    | streamStatus connected => cases connected <;> exact .of_eq rfl rfl rfl
    | _ => exact .of_eq rfl rfl rfl
  | inviteAccepted userId username => exact retains_finishAddContact E ans userId username s
  | tick =>
    unfold handleInternal
    dsimp only
    split <;> exact .of_eq rfl rfl rfl
  | streamAuthRequired => exact retains_refreshTokenNow E s
  | p2pStatus peerId connected latencyMs isRelay =>
    show Retains E s (handleP2pStatus peerId connected latencyMs isRelay s)
    unfold handleP2pStatus
    refine .modApp ?_
    unfold keyring
    dsimp only [Sys.modApp]
    split
    · rfl
    · split <;> rfl
  | _ => exact .of_eq rfl rfl rfl

/-- An input starts tasks at most, and these have been checked. -/
theorem tasks_handle (s : Sys ε) (input : Input) :
    ∃ ts : List BackgroundTask, (∀ t ∈ ts, t.Checked E) ∧
      (handle E ans s input).tasks = s.tasks ++ ts.map started := by
  cases input with
  | key key => exact (signs_handleEvent E ans key s).elim Retains.tasks fun h => h.2.tasks
  | event event gone =>
    cases hbrings : event.bringsTokens with
    | false => exact (retains_handleInternal E ans hbrings gone s).tasks
    | true =>
      cases event with
      | auth msg =>
        cases msg with
        | success m =>
          obtain ⟨v, hv, heq⟩ := handleInternal_auth E ans (.success m) gone s
          rw [handle, heq]
          exact (hv.retains.adopts (adopts_success E ans m v)).tasks
        | failure msg => cases hbrings
      | tokenRefresh msg =>
        cases msg with
        | refreshed accessToken refreshToken expiresAt =>
          exact (adopts_refreshed E ans accessToken refreshToken expiresAt s).tasks
        | _ => cases hbrings
      | _ => cases hbrings

end App

/-! ### Tasks and pipelines -/

/-- A successful authentication names the token and the device of the session it brings. -/
def InternalEvent.Coherent : InternalEvent → Prop
  | .auth (.success m) =>
    m.accessToken = m.fullSession.accessToken ∧ m.deviceId = m.fullSession.deviceId
  | _ => True

theorem InternalEvent.coherent_of_bringsTokens {e : InternalEvent} (h : e.bringsTokens = false) :
    e.Coherent := by
  cases e with
  | auth msg =>
    cases msg with
    | success m => cases h
    | failure msg => trivial
  | _ => trivial

namespace Sys

/-- The events that wait are coherent. -/
def EventsCoherent (s : Sys ε) : Prop := ∀ e ∈ s.queue.map Queued.event, e.Coherent

theorem EventsCoherent.conclude {s : Sys ε} (hs : s.EventsCoherent) (k : ℕ) {e : InternalEvent}
    (he : e.Coherent) : (s.conclude k e).EventsCoherent := by
  intro e' he'
  have hmem : e' ∈ (s.queue ++ [(⟨e, false⟩ : Queued)]).map Queued.event := he'
  rw [List.map_append] at hmem
  obtain hmem | hmem := List.mem_append.mp hmem
  · exact hs e' hmem
  · exact List.mem_singleton.mp hmem ▸ he

theorem coherent_refreshEvent (refreshToken : String) (result : TaskResult) :
    (refreshEvent refreshToken result).Coherent := by cases result <;> trivial

theorem keyring_beginRequest (k : ℕ) (task : BackgroundTask) (fresh : Session) (s : Sys ε) :
    (beginRequest E k task fresh ans s).keyring = s.keyring := by
  cases task with
  | restoreFromDisk =>
    unfold beginRequest
    dsimp only
    split
    · rfl
    · rfl
    · unfold beginAuthenticate
      split <;> rfl
  | authenticate session reauth =>
    unfold beginRequest beginAuthenticate
    dsimp only
    split <;> rfl
  | _ => rfl

theorem eventsCoherent_beginRequest {s : Sys ε} (hs : s.EventsCoherent) (k : ℕ)
    (task : BackgroundTask) (fresh : Session) :
    (beginRequest E k task fresh ans s).EventsCoherent := by
  have hdir : ({ s with dir := s.dir.sessionPath } : Sys ε).EventsCoherent := hs
  cases task with
  | restoreFromDisk =>
    unfold beginRequest
    dsimp only
    split
    · exact hdir.conclude k trivial
    · exact hdir.conclude k trivial
    · unfold beginAuthenticate
      split
      · exact hdir.conclude k trivial
      · exact hs
  | authenticate session reauth =>
    unfold beginRequest beginAuthenticate
    dsimp only
    split
    · exact hs.conclude k trivial
    · exact hs
  | _ => exact hs

theorem keyring_finishRequest (k : ℕ) (r : Running) (result : TaskResult) (s : Sys ε) :
    (finishRequest k r result ans s).keyring = s.keyring := by
  unfold finishRequest
  split
  case h_1 =>
    split
    · rfl
    · dsimp only
      split <;> rfl
  case h_2 | h_3 | h_4 => split <;> rfl
  all_goals rfl

theorem eventsCoherent_finishRequest {s : Sys ε} (hs : s.EventsCoherent) (k : ℕ) (r : Running)
    (result : TaskResult) : (finishRequest k r result ans s).EventsCoherent := by
  unfold finishRequest
  split
  case h_1 =>
    split
    · exact hs
    · dsimp only
      split
      · next dir _ =>
        exact EventsCoherent.conclude (s := { s with dir := dir }) hs k trivial
      · next dir _ =>
        exact EventsCoherent.conclude (s := { s with dir := dir }) hs k ⟨rfl, rfl⟩
  case h_2 | h_3 | h_4 =>
    split
    · exact hs
    · exact hs.conclude k ⟨rfl, rfl⟩
  case h_5 | h_6 => exact hs.conclude k (coherent_refreshEvent _ _)
  case h_7 => exact hs
  all_goals first | exact hs.conclude k trivial | exact hs

/-- What happens beside the app leaves the credentials alone. -/
theorem keyring_step {s s' : Sys ε} {a : Label ε} (h : step E s a = some s')
    (happ : a.ofApp = false) : s'.keyring = s.keyring := by
  cases stepped h with
  | startup | key | internal => cases happ
  | request => exact keyring_beginRequest _ _ _ s
  | finish => exact keyring_finishRequest _ _ _ s
  | orchestrator hp hs' =>
    obtain ⟨⟨program, world⟩, -, rfl⟩ := Option.map_eq_some_iff.mp hs'
    rfl
  | _ => rfl

theorem eventsCoherent_step {s s' : Sys ε} {a : Label ε} (hs : s.EventsCoherent)
    (h : step E s a = some s') (happ : a.ofApp = false) : s'.EventsCoherent := by
  cases htask : a.ofTask with
  | true =>
    cases stepped h with
    | request => exact eventsCoherent_beginRequest hs _ _ _
    | finish => exact eventsCoherent_finishRequest hs _ _ _
    | _ => cases htask
  | false =>
    obtain ⟨e, he, -⟩ | ⟨es, hes, he⟩ := (quiet_step h happ htask).events
    · intro e' he'
      have hmem : e' ∈ s.account.events := by
        rw [he]
        exact List.mem_cons_of_mem _ he'
      exact hs e' hmem
    · intro e' he'
      have hmem : e' ∈ s.account.events ++ es := he ▸ he'
      obtain hmem | hmem := List.mem_append.mp hmem
      · exact hs e' hmem
      · exact InternalEvent.coherent_of_bringsTokens (hes e' hmem)

/-! ### Runs -/

/-- The credentials agree, and go on to agree when the events that wait are taken. -/
structure Coherent (s : Sys ε) : Prop where
  agree : s.keyring.Agree
  events : s.EventsCoherent

theorem EventsCoherent.congr {s s' : Sys ε} (hs : s.EventsCoherent)
    (h : s'.queue.map Queued.event = s.queue.map Queued.event) : s'.EventsCoherent :=
  fun e he => hs e (by rwa [h] at he)

theorem Coherent.retains {s s' : Sys ε} (hs : s.Coherent) (h : Retains E s s') : s'.Coherent :=
  ⟨h.keyring ▸ hs.agree, hs.events.congr h.queue⟩

theorem Coherent.adopts {s s' : Sys ε} {c : Keyring} (hs : s.Coherent) (hc : c.Agree)
    (h : Adopts E c s s') : s'.Coherent := ⟨h.keyring ▸ hc, hs.events.congr h.queue⟩

theorem coherent_handleInternal {s : Sys ε} {event : InternalEvent} (hs : s.Coherent)
    (he : event.Coherent) (gone : Bool) : (App.handleInternal E ans event gone s).Coherent := by
  cases hbrings : event.bringsTokens with
  | false => exact hs.retains (App.retains_handleInternal E ans hbrings gone s)
  | true =>
    cases event with
    | auth msg =>
      cases msg with
      | success m =>
        obtain ⟨v, hv, heq⟩ := App.handleInternal_auth E ans (.success m) gone s
        obtain ⟨htoken, hdevice⟩ := he
        rw [heq]
        exact (hs.retains (hv.retains (E := E))).adopts (.signedIn _ htoken hdevice)
          (App.adopts_success E ans m v)
      | failure msg => cases hbrings
    | tokenRefresh msg =>
      cases msg with
      | refreshed accessToken refreshToken expiresAt =>
        exact hs.adopts (hs.agree.refreshed accessToken refreshToken expiresAt)
          (App.adopts_refreshed E ans accessToken refreshToken expiresAt s)
      | _ => cases hbrings
    | _ => cases hbrings

theorem coherent_step {s s' : Sys ε} {a : Label ε} (hs : s.Coherent) (h : step E s a = some s') :
    s'.Coherent := by
  cases happ : a.ofApp with
  | false => exact ⟨keyring_step h happ ▸ hs.agree, eventsCoherent_step hs.events h happ⟩
  | true =>
    cases stepped h with
    | startup => exact hs.retains (App.retains_startupCheck E _ s)
    | @key key ans =>
      obtain hretains | ⟨-, hcleared⟩ := App.signs_handleEvent E ans key s
      · exact hs.retains hretains
      · exact hs.adopts (.signedOut _) hcleared
    | @internal ans q queue _ hqueue =>
      have hmem (e : InternalEvent) (he : e ∈ q.event :: queue.map Queued.event) : e.Coherent := by
        refine hs.events e ?_
        rw [hqueue]
        exact he
      have hpopped : ({ s with queue := queue } : Sys ε).Coherent :=
        ⟨hs.agree, fun e he => hmem e (List.mem_cons_of_mem _ he)⟩
      exact coherent_handleInternal hpopped (hmem _ List.mem_cons_self) q.gone
    | _ => cases happ

theorem coherent_start (cfg : AppConfig) (dir : ConfigDir) (db : Storage) :
    (start ε cfg dir db).Coherent := ⟨.signedOut cfg.serverUrl, List.forall_mem_nil _⟩

theorem coherent_stepOrRestart {s s' : Sys ε} {l : VaultLabel ε} (hs : s.Coherent)
    (h : stepOrRestart E s l = some s') : s'.Coherent := by
  cases l with
  | act a => exact coherent_step hs h
  | restart cfg =>
    obtain rfl := Option.some.inj h
    exact coherent_start cfg s.dir s.db

/-- **One token.** Through any run and any restarts, the access token that the shared client sends
while a user is signed in is the one of the session in memory, and so are the app's own copy of it
and the device. -/
theorem tokens_agree (E : AppExternals ε) (cfg : AppConfig) (dir : ConfigDir) (db : Storage)
    {s : Sys ε} {ls : List (VaultLabel ε)}
    (h : Run.after (stepOrRestart E) (start ε cfg dir db) ls = some s) {session : Session}
    (hcurrent : s.app.currentSession = some session) :
    s.grpc.token = some session.accessToken ∧ s.app.accessToken = session.accessToken ∧
      s.app.deviceId = session.deviceId := by
  have hagree := (Run.invariant (fun _ _ _ => coherent_stepOrRestart) (coherent_start cfg dir db)
    h).agree
  exact ⟨hagree.token session hcurrent, hagree.accessToken session hcurrent,
    hagree.deviceId session hcurrent⟩

/-- After a restore and a refresh the client sends the new token. -/
theorem tokens_agree_refreshed : ∃ s, Run.after (stepOrRestart .quiet) stored
      ((restores ++ isRefused ++ refreshesAccess).map .act) = some s ∧
    s.app.currentSession.map Session.accessToken = some "access3" ∧
      s.grpc.token = some "access3" := by
  obtain ⟨s, h⟩ := Option.isSome_iff_exists.mp (show (Run.after (stepOrRestart .quiet) stored
    ((restores ++ isRefused ++ refreshesAccess).map .act)).isSome by decide +kernel)
  have hcurrent : (Run.after (stepOrRestart .quiet) stored
      ((restores ++ isRefused ++ refreshesAccess).map .act)).bind (fun s =>
        s.app.currentSession) = some (Session.zeros.withTokens "access3" "refresh1" 300) := by
    decide +kernel
  rw [h] at hcurrent
  have hcurrent' : s.app.currentSession =
    some (Session.zeros.withTokens "access3" "refresh1" 300) := hcurrent
  refine ⟨s, h, congrArg (Option.map Session.accessToken) hcurrent', ?_⟩
  exact (tokens_agree .quiet _ _ _ h hcurrent').1

end Sys

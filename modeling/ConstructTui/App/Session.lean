import ConstructTui.App.State

/-!
# Sessions of the app

Signing in: the background tasks that authenticate, what a successful answer sets up, and the
session pipeline that `start_orchestrator` spawns once the keys are decoded and the database is
open. Token refreshes and re-authentications come back through the same functions.

## Main definitions

* `App.handleAuthMsg`, `App.handleTokenRefreshMsg`, `App.refreshTokenNow`.
* `App.prepareOrchestrator`, `App.loadContacts`, `App.restoreSessions`, `App.startOrchestrator`.
-/

namespace App

variable {ε : Type} (E : AppExternals ε) (ans : Answers ε)

/-! ### Starting to authenticate -/

/-- Restore a plaintext session from disk. -/
def startAuthRestoreFromDisk (s : Sys ε) : Sys ε :=
  (s.spawn .restoreFromDisk).setScreen (.connecting "Restoring session…")

/-- Authenticate with a session decrypted in memory. -/
def startAuthRestorePreloaded (session : Session) (s : Sys ε) : Sys ε :=
  (s.spawn (.authenticate session false)).setScreen (.connecting "Authenticating…")

def startAuthRegister (username : String) (s : Sys ε) : Sys ε :=
  let name := if username = "" then none else some username
  (s.spawn (.register name)).modApp fun a =>
    { a with registration := .new, ticking := true, screen := .registering }

def startAuthLink (token : String) (s : Sys ε) : Sys ε :=
  (s.spawn (.link token)).setScreen (.connecting "Confirming device link…")

/-- The first screen depends on the session file. -/
def startupCheck (s : Sys ε) : Sys ε :=
  let state := s.dir.detectSession ans.readable
  let s := { s with dir := s.dir.sessionPath }
  match state with
  | .encrypted => s.setScreen .unlock
  | .plaintext => startAuthRestoreFromDisk s
  | .none => s.setScreen .onboarding

/-! ### Token refresh -/

/-- Refresh now, on the session in memory. -/
def refreshTokenNow (s : Sys ε) : Sys ε :=
  match s.app.currentSession with
  | none => s
  | some session => s.spawn (.tokenRefreshNow session.deviceId session.refreshToken)

/-- Refresh shortly before the tokens expire. -/
def startTokenRefresh (session : Session) (s : Sys ε) : Sys ε :=
  s.spawn (.tokenRefresh session.deviceId session.refreshToken session.expiresAt)

/-- Fall back to the device key when the refresh token is rejected. -/
def startDeviceReauth (s : Sys ε) : Sys ε :=
  match s.app.currentSession with
  | none => s.setStatus "Device re-auth failed: no session in memory"
  | some session => s.spawn (.authenticate session true)

/-- Write the session file, sealed if there is a key. -/
def saveSession (session : Session) (s : Sys ε) : Except String Unit × Sys ε :=
  let (result, dir) := s.dir.saveFile (ConfigDir.sessionFile session s.app.sessionKey) ans.save
  (result, { s with dir := dir })

/-- Keep a refreshed session in memory and on disk; an error of the save is ignored. -/
def persistSessionBackground (session : Session) (s : Sys ε) : Sys ε :=
  let s := startTokenRefresh session (s.modApp fun a => { a with currentSession := some session })
  if s.app.sessionKey.isSome || s.app.noEncrypt then (saveSession ans session s).2 else s

def handleTokenRefreshMsg (msg : TokenRefreshMsg) (s : Sys ε) : Sys ε :=
  match msg with
  | .refreshed accessToken refreshToken expiresAt =>
    let s := { s.modApp (fun a => { a with accessToken := accessToken }) with
      grpc := { s.grpc with token := some accessToken } }
    match s.app.currentSession with
    | none => s
    | some session =>
      persistSessionBackground ans (session.withTokens accessToken refreshToken expiresAt) s
  | .failedTransport _ => s
  | .failedAuth _ => startDeviceReauth s

/-! ### Starting a pipeline -/

/-- A private key of the session. -/
def decodeKey (hex : String) : Except String Bytes :=
  (E.hexDecode hex).mapError ("Orchestrator key decode error: " ++ ·)

/-- The steps of `start_orchestrator` that can end it: decode the keys, build the core, open the
database twice. What is left is the identity key and the core. -/
def prepareOrchestrator (session : Session) (userId : String) : Except String (Bytes × ε) := do
  let identitySecret ← decodeKey E session.identityKeyHex
  let signingSecret ← decodeKey E session.signingKeyHex
  let spkSecret ← decodeKey E session.spkKeyHex
  let spkSig ← decodeKey E session.spkSigHex
  let core ← (E.fromKeys identitySecret signingSecret spkSecret spkSig userId ans.core).mapError
    ("Orchestrator init error: " ++ ·)
  if !ans.storageOpens then
    throw ("Storage open error: " ++ ans.error)
  return (identitySecret, core)

def contactOf (c : StoredContact) : Contact := ⟨c.userId, c.displayName, 0, none⟩

/-- The stored contacts, if they can be read. -/
def storedContacts (s : Sys ε) : Option (List StoredContact) :=
  if ans.sqlFails .getContacts then none else some s.db.getContacts

/-- Show the stored contacts. -/
def loadContacts (s : Sys ε) : Sys ε :=
  match storedContacts ans s with
  | none => s
  | some stored =>
    s.modApp fun a => { a with chatList := a.chatList.setContacts (stored.map contactOf) }

/-- A value of the secure store; one that cannot be read counts as missing. -/
def secureLoad (key : String) (db : Storage) : Option Bytes :=
  if ans.sqlFails (.secureLoad key) then none else db.secureLoad key

/-- Give the core its saved state and the sessions of the contacts. -/
def restoreSessions (contactIds : List String) (db : Storage) (core : ε) : ε :=
  let core := match secureLoad ans Storage.orchestratorStateKey db with
    | some state => if state.isEmpty then core else E.importOrchestratorState state core
    | none => core
  let keys := contactIds.flatMap fun id => [Storage.archiveKey id, Storage.sessionKey id]
  keys.foldl (fun core key =>
    (E.core.handleEvent (.sessionLoaded key (secureLoad ans key db)) core).2) core

/-- The stored watermark; one that cannot be read counts as missing. -/
def storedCursor (db : Storage) : Option String :=
  if ans.sqlFails .loadStreamCursor then none else db.loadStreamCursor

/-- A pipeline that has just been spawned; its first event is the launch of the app. -/
def newPipeline (userId deviceId : String) (contactIds : List String) (identitySecret : Bytes)
    (core : ε) (db : Storage) : Pipeline ε where
  config := ⟨E.proto, userId, deviceId⟩
  identitySecret := identitySecret
  world := { TaskWorld.start core db with
    committed := storedCursor ans db, selfTx := [.appLaunched] }
  program := pure ()
  commands := []
  worker := .start contactIds
  relayed := 0
  finished := []
  shutDown := false

/-- Spawn the pipeline, and the upload of fresh one-time keys. -/
def spawnPipeline (userId deviceId : String) (contactIds : List String) (identitySecret : Bytes)
    (core : ε) (s : Sys ε) : Sys ε :=
  let core := restoreSessions E ans contactIds s.db core
  let (otpks, core) := E.generateOtpks core
  let pipeline := newPipeline E ans userId deviceId contactIds identitySecret core s.db
  let handle := some s.pipelines.length
  let s := { s.modApp (fun a => { a with
      readStorage := true
      ourIdentityKey := E.identityPublicKey core
      streamTx := handle
      orchHandle := handle }) with
    pipelines := s.pipelines ++ [pipeline] }
  if otpks.isEmpty then s else s.spawn (.uploadPreKeys deviceId otpks)

/-- `start_orchestrator`. -/
def startOrchestrator (session : Session) (userId deviceId : String) (s : Sys ε) : Sys ε :=
  match prepareOrchestrator E ans session userId with
  | .error msg => s.setStatus msg
  | .ok (identitySecret, core) =>
    let contactIds := ((storedContacts ans s).getD []).map StoredContact.userId
    spawnPipeline E ans userId deviceId contactIds identitySecret core (loadContacts ans s)

/-! ### Answers of the auth tasks -/

/-- What a successful authentication sets before anything is saved. -/
def adoptSession (m : AuthSuccess) (s : Sys ε) : Sys ε :=
  { s.modApp fun a => { a with
      status := "Connected as " ++ m.userId
      userId := m.userId
      deviceId := m.deviceId
      accessToken := m.accessToken
      connection := .connected a.transportLabel none
      settingsScreen := .new a.serverUrl a.transportLabel m.deviceId m.userId a.pqActive
        m.fullSession.signingKeyHex
      currentSession := some m.fullSession } with
    grpc := ⟨some m.accessToken, some m.deviceId⟩ }

/-- Start the pipeline of an authenticated session and show the chats. -/
def enterMain (m : AuthSuccess) (s : Sys ε) : Sys ε :=
  (startOrchestrator E ans m.fullSession m.userId m.deviceId s).setScreen .main

/-- A new session is saved first: sealed when there is a key, in clear when encryption is off.
Without either it waits for a passphrase. -/
def saveAndEnter (m : AuthSuccess) (session : Session) (s : Sys ε) : Sys ε :=
  if s.app.sessionKey.isSome || s.app.noEncrypt then
    match saveSession ans session s with
    | (.ok (), s) => enterMain E ans m s
    | (.error e, s) => s.setScreen (.authError ("Save failed: " ++ e))
  else s.modApp fun a => { a with
    pendingSession := some session
    unlockScreen := a.unlockScreen.resetForMode .setNew
    screen := .setPassphrase }

def handleAuthMsg (msg : AuthMsg) (s : Sys ε) : Sys ε :=
  match msg with
  | .success m =>
    let s := adoptSession m s
    match m.pendingSave with
    | some session => saveAndEnter E ans m session (startTokenRefresh session s)
    | none => enterMain E ans m s
  | .failure msg =>
    let s := s.modApp fun a => { a with ticking := false }
    if msg = "no_session" then s.setScreen .onboarding
    else
      -- the automatic restore at startup, when no passphrase has been entered yet
      let isAutoRestore := (match s.app.screen with | .connecting _ => true | _ => false) &&
        s.app.sessionKey.isNone && s.app.onboarding.username.isEmpty
      if isAutoRestore then s.setScreen .onboarding else s.setScreen (.authError msg)

/-- A failed authentication ends the ticking and shows another screen. -/
theorem handleAuthMsg_failure (msg : String) (s : Sys ε) :
    ∃ screen, (screen = .onboarding ∨ screen = .authError msg) ∧
      handleAuthMsg E ans (.failure msg) s =
        s.modApp fun a => { a with ticking := false, screen := screen } := by
  unfold handleAuthMsg
  dsimp only
  split
  · exact ⟨.onboarding, .inl rfl, rfl⟩
  · split <;> split
    · exact ⟨.onboarding, .inl rfl, rfl⟩
    · exact ⟨.authError msg, .inr rfl, rfl⟩
    · exact ⟨.onboarding, .inl rfl, rfl⟩
    · exact ⟨.authError msg, .inr rfl, rfl⟩

end App

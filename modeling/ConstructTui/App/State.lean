import ConstructTui.Auth
import ConstructTui.Config
import ConstructTui.Invite.Basic
import ConstructTui.Screens
import ConstructTui.Stream.Relay
import ConstructTui.Orchestrator.Task

/-!
# The state of the client

The app is one task: it takes key presses and internal events, one at a time. What it starts runs
beside it: background tasks that ask the server something and send one event back, and session
pipelines, each made of a stream worker, a relay and an orchestrator task. They share the client's
credentials, the database and the app's event queue.

A queued event that shows a message is marked once the rows of its peer have been deleted, as is a
message on screen; nothing reads the marks.

## Main definitions

* `KeyEvent`, `Screen`, `Focus`, `InternalEvent`: what the app takes and shows.
* `BackgroundTask`, `Pipeline`: what runs beside it.
* `App`, `Sys`, `Sys.start`: the app, and everything together.
* `AppExternals`, `Answers`: what lies outside, and what one handler is answered from there.
-/

/-! ### Keys -/

inductive KeyCode
  | char (c : Char)
  | enter
  | tab
  | backTab
  | esc
  | backspace
  | up
  | down
  | pageUp
  | pageDown
  | home
  | endKey
  | other
  deriving DecidableEq, Repr

/-- The modifiers that the code tells apart. -/
inductive KeyModifiers
  | none
  | control
  | other
  deriving DecidableEq, Repr

structure KeyEvent where
  code : KeyCode
  modifiers : KeyModifiers
  isPress : Bool
  deriving DecidableEq, Repr

/-- A key pressed without modifiers. -/
def KeyEvent.plain (code : KeyCode) : KeyEvent := ⟨code, .none, true⟩

/-- Ctrl+C, or `q` at top level. -/
def isQuit (key : KeyEvent) : Bool :=
  key.code = .char 'c' && key.modifiers = .control || key.code = .char 'q' && key.modifiers = .none

/-! ### Screens and events -/

inductive Screen
  | startup
  | unlock
  | setPassphrase
  | onboarding
  | deviceLink
  | registering
  | connecting (msg : String)
  | authError (msg : String)
  | main
  | settings
  | identityQr
  | contactSearch
  | safetyNumber
  deriving DecidableEq, Repr

inductive Focus
  | contactList
  | chatView
  | compose
  deriving DecidableEq, Repr

/-- The state of the connection in the status bar. -/
inductive ConnectionState
  | disconnected
  | connecting (transport : String)
  | connected (transport : String) (latencyMs : Option ℕ)
  | reconnecting (attempt intervalMs : ℕ)
  deriving DecidableEq, Repr

structure AuthSuccess where
  userId : String
  deviceId : String
  accessToken : String
  fullSession : Session
  pendingSave : Option Session
  deriving DecidableEq, Repr

/-- Messages from background auth tasks. -/
inductive AuthMsg
  | success (s : AuthSuccess)
  | failure (msg : String)
  deriving DecidableEq, Repr

/-- Messages from the token refresh task. -/
inductive TokenRefreshMsg
  | refreshed (accessToken refreshToken : String) (expiresAt : ℤ)
  | failedTransport (error : String)
  | failedAuth (error : String)
  deriving DecidableEq, Repr

/-- All background tasks funnel through this type. -/
inductive InternalEvent
  | auth (msg : AuthMsg)
  | tokenRefresh (msg : TokenRefreshMsg)
  | bridge (event : BridgeEvent)
  | contactSearchResult (results : List SearchResult)
  | contactSearchError (msg : String)
  | inviteAccepted (userId username : String)
  | registrationStep (reached : RegistrationStep)
  | tick
  | streamAuthRequired
  | p2pStatus (peerId : String) (connected : Bool) (latencyMs : Option ℕ) (isRelay : Bool)
  deriving DecidableEq, Repr

/-- An event in the app's queue. `gone` marks a message whose peer's rows were deleted after it had
been stored. -/
structure Queued where
  event : InternalEvent
  gone : Bool
  deriving DecidableEq, Repr

/-! ### What runs beside the app -/

/-- What a background task does. -/
inductive BackgroundTask
  | restoreFromDisk
  | authenticate (session : Session) (reauth : Bool)
  | register (username : Option String)
  | link (token : String)
  | tokenRefresh (deviceId refreshToken : String) (expiresAt : ℤ)
  | tokenRefreshNow (deviceId refreshToken : String)
  | uploadPreKeys (deviceId : String) (keys : List (UInt32 × Bytes))
  | search (query : String)
  | redeem (invite : Invite) (username : String)
  deriving DecidableEq, Repr

/-- A background task, before its request or waiting for the answer; the session it works on is
there once it has one. -/
structure Running where
  task : BackgroundTask
  requested : Bool
  session : Option Session
  deriving DecidableEq, Repr

/-- A stream worker, a relay and an orchestrator task. In `world`, the task's own channel is the
receiver of its events, and the stream channel the one the worker reads. -/
structure Pipeline (ε : Type) where
  config : TaskConfig
  identitySecret : Bytes
  world : TaskWorld ε
  program : Prog (TaskWorld ε) Unit
  commands : List OrchestratorCommand
  worker : StreamWorker.Worker
  relayed : ℕ
  finished : List ℕ
  shutDown : Bool

/-! ### The app -/

/-- The app's own state; a pipeline is referred to by its number. -/
structure App where
  screen : Screen
  onboarding : OnboardingScreen
  deviceLink : DeviceLinkScreen
  unlockScreen : UnlockScreen
  registration : RegistrationScreen
  ticking : Bool
  sessionKey : Option SessionKey
  currentSession : Option Session
  pendingSession : Option Session
  noEncrypt : Bool
  focus : Focus
  chatList : ChatListPane
  chatView : ChatViewPane
  status : String
  running : Bool
  serverUrl : String
  transportLabel : String
  userId : String
  pqActive : Bool
  connection : ConnectionState
  settingsScreen : SettingsScreen
  contactSearch : ContactSearchScreen
  safetyNumber : Option SafetyNumberScreen
  orchHandle : Option ℕ
  streamTx : Option ℕ
  readStorage : Bool
  deviceId : String
  accessToken : String
  ourIdentityKey : Option Bytes
  deleteConfirm : Option String

/-- The credentials the shared client sends with every request. -/
structure GrpcClient where
  token : Option String
  deviceId : Option String
  deriving DecidableEq, Repr

/-- The whole client. `opened` is the contact whose conversation the view shows. -/
structure Sys (ε : Type) where
  app : App
  grpc : GrpcClient
  dir : ConfigDir
  db : Storage
  tasks : List Running
  queue : List Queued
  pipelines : List (Pipeline ε)
  opened : Option String

structure AppConfig where
  serverUrl : String
  transportLabel : String
  noEncrypt : Bool
  pqActive : Bool

def App.new (cfg : AppConfig) : App where
  screen := .startup
  onboarding := .new
  deviceLink := .new
  unlockScreen := .new .unlock
  registration := .new
  ticking := false
  sessionKey := none
  currentSession := none
  pendingSession := none
  noEncrypt := cfg.noEncrypt
  focus := .contactList
  chatList := .new
  chatView := .new ""
  status := "Ready"
  running := true
  serverUrl := cfg.serverUrl
  transportLabel := cfg.transportLabel
  userId := ""
  pqActive := cfg.pqActive
  connection := .disconnected
  settingsScreen := .new cfg.serverUrl cfg.transportLabel "—" "—" cfg.pqActive ""
  contactSearch := .new
  safetyNumber := none
  orchHandle := none
  streamTx := none
  readStorage := false
  deviceId := ""
  accessToken := ""
  ourIdentityKey := none
  deleteConfirm := none

/-- A client that has just been started, on the files it finds. -/
def Sys.start (ε : Type) (cfg : AppConfig) (dir : ConfigDir) (db : Storage) : Sys ε where
  app := App.new cfg
  grpc := ⟨none, none⟩
  dir := dir
  db := db
  tasks := []
  queue := []
  pipelines := []
  opened := none

namespace Sys

variable {ε : Type}

def modApp (s : Sys ε) (f : App → App) : Sys ε := { s with app := f s.app }

def setStatus (s : Sys ε) (status : String) : Sys ε :=
  s.modApp fun a => { a with status := status }

def setScreen (s : Sys ε) (screen : Screen) : Sys ε :=
  s.modApp fun a => { a with screen := screen }

/-- `tokio::spawn`. -/
def spawn (s : Sys ε) (task : BackgroundTask) : Sys ε :=
  { s with tasks := s.tasks ++ [⟨task, false, none⟩] }

/-- `internal_tx.send` of an event that shows no message. -/
def enqueue (s : Sys ε) (event : InternalEvent) : Sys ε :=
  { s with queue := s.queue ++ [⟨event, false⟩] }

/-- An event for the orchestrator task of a pipeline. -/
def orchSend (s : Sys ε) (handle : Option ℕ) (event : IncomingEvent) : Sys ε :=
  match handle with
  | none => s
  | some i => { s with pipelines := s.pipelines.modify i fun p =>
      { p with world := { p.world with selfTx := p.world.selfTx ++ [event] } } }

/-- A command for the orchestrator task of a pipeline. -/
def orchCommand (s : Sys ε) (handle : Option ℕ) (cmd : OrchestratorCommand) : Sys ε :=
  match handle with
  | none => s
  | some i => { s with pipelines := s.pipelines.modify i fun p =>
      { p with commands := p.commands ++ [cmd] } }

/-- `try_send` on the command channel of a stream worker. -/
def streamTrySend (s : Sys ε) (handle : Option ℕ) (hasRoom : Bool) (cmd : StreamCmd) : Sys ε :=
  match handle with
  | none => s
  | some i => if hasRoom then { s with pipelines := s.pipelines.modify i fun p =>
      { p with
        world := { p.world with streamTx := p.world.streamTx ++ [cmd] }
        shutDown := p.shutDown || cmd = .shutdown } }
    else s

end Sys

/-! ### Outside the app -/

/-- What the app uses from outside the repository, besides what its pipelines use. -/
structure AppExternals (ε : Type) where
  core : Externals ε
  proto : Proto
  codec : EnvelopeCodec
  hexDecode : String → Except String Bytes
  fromKeys : Bytes → Bytes → Bytes → Bytes → String → ε → Except String ε
  importOrchestratorState : Bytes → ε → ε
  generateOtpks : ε → List (UInt32 × Bytes) × ε
  identityPublicKey : ε → Option Bytes
  base64Decode : String → Option Bytes
  deriveKeys : Bytes → Bytes → Except String DerivedKeys
  looksLikeInvite : String → Bool
  parseInvite : String → ℤ → Except String Invite

/-- The statements the app runs itself. -/
inductive Statement
  | getContacts
  | secureLoad (key : String)
  | loadStreamCursor
  | clearStreamCursor
  | getMessages
  | getContactById
  | upsertContact
  | deleteContact (part : ℕ)
  deriving DecidableEq, Repr

/-- The answers that one handler gets from outside: random ids and salts, the clock, and how its
calls on files and the database end. -/
structure Answers (ε : Type) where
  messageId : String
  masterSalt : Bytes
  nowSecs : ℕ
  readable : Bool
  save : SaveOutcome
  clear : ClearOutcome
  storageOpens : Bool
  sqlFails : Statement → Bool
  streamHasRoom : Bool
  homeWritable : Bool
  error : String
  core : ε

/-- Surroundings of a client whose keys are zeros, so that every digit stands for one. Concrete runs
override what they need. -/
def AppExternals.quiet : AppExternals Unit where
  core := .quiet
  proto := .tagged
  codec := ⟨fun _ => .error "", fun _ _ => .error "", fun _ => .error "", fun _ => .error ""⟩
  hexDecode hex := .ok (List.replicate (hex.utf8ByteSize / 2) 0)
  fromKeys _ _ _ _ _ core := .ok core
  importOrchestratorState _ core := core
  generateOtpks core := ([], core)
  identityPublicKey _ := none
  base64Decode _ := none
  deriveKeys passphrase _ := .ok ⟨passphrase, passphrase⟩
  looksLikeInvite _ := false
  parseInvite _ _ := .error ""

/-- Answers with which everything succeeds. -/
def Answers.quiet : Answers Unit where
  messageId := "m"
  masterSalt := []
  nowSecs := 0
  readable := true
  save := .saved
  clear := .cleared
  storageOpens := true
  sqlFails _ := false
  streamHasRoom := true
  homeWritable := true
  error := ""
  core := ()

/-- A device whose keys are zeros. -/
def Session.zeros : Session where
  signingKeyHex := String.ofList (List.replicate 64 '0')
  identityKeyHex := String.ofList (List.replicate 64 '0')
  deviceId := "phone"
  userId := ""
  accessToken := ""
  refreshToken := ""
  expiresAt := 0
  spkKeyHex := String.ofList (List.replicate 64 '0')
  spkSigHex := String.ofList (List.replicate 128 '0')

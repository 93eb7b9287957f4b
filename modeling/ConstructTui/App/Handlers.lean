import ConstructTui.App.Session

/-!
# Keys and events of the app

The handlers of the app's loop: what each key does on each screen, and what each internal event
does.

## Main definitions

* `App.openConversation`, `App.sendCompose`, `App.confirmDelete`, `App.finishAddContact`,
  `App.doLogout`.
* `App.handleEvent`, `App.handleInternal`.
-/

/-- Two digits at least. -/
def pad2 (n : ℤ) : String := if 0 ≤ n ∧ n < 10 then "0" ++ toString n else toString n

/-- The hour and minute of a time of day in seconds. -/
def hhmm (secs : ℤ) : String :=
  pad2 ((secs.tdiv 3600).tmod 24) ++ ":" ++ pad2 ((secs.tdiv 60).tmod 60)

/-- `normalize_username`. -/
def normalizeUsername (raw : List Char) : String :=
  String.ofList ((trimChars ((trimChars raw).dropWhile fun c => c = '@')).map Char.toLower)

def usernameIsSearchable (normalized : String) : Bool :=
  3 ≤ normalized.utf8ByteSize && normalized.utf8ByteSize ≤ 30 &&
    normalized.toList.all fun c => c.isAlphanum || c = '_'

/-- `vec_to_key32`: the first 32 bytes, filled up with zeros. -/
def vecToKey32 (v : Bytes) : Bytes := v.take 32 ++ List.replicate (32 - v.length) 0

namespace App

variable {ε : Type} (E : AppExternals ε) (ans : Answers ε)

/-! ### Conversations -/

/-- A stored message on screen. -/
def shownMessage (m : StoredMessage) : ChatMessage where
  id := m.id
  kind := if m.direction = .sent then .sent else .received
  text := m.text
  time := hhmm (m.timestampMs.tdiv 1000)
  peer := some m.peerId
  gone := false

/-- The history a conversation opens with; none when it cannot be read. -/
def history (contactId : String) (s : Sys ε) : List ChatMessage :=
  if s.app.readStorage && !ans.sqlFails .getMessages
  then (s.db.getMessages contactId 50).map shownMessage
  else []

/-- Open a contact's conversation. -/
def openConversation (c : Contact) (s : Sys ε) : Sys ε :=
  let s := s.orchSend s.app.orchHandle (.activeChatChanged c.id true)
  { s.modApp fun a => { a with chatView := { a.chatView with
      contactName := c.displayName, messages := history ans c.id s } } with
    opened := some c.id }

def setFocus (f : Focus) (s : Sys ε) : Sys ε :=
  s.modApp fun a => { a with
    chatList := { a.chatList with focused := f = .contactList }
    chatView := { a.chatView with focused := f = .chatView, composeFocused := f = .compose }
    focus := f }

/-- Send the typed text to the selected contact and show it, unless it is blank. -/
def sendCompose (s : Sys ε) : Sys ε :=
  let (text, view) := s.app.chatView.takeCompose
  let s := s.modApp fun a => { a with chatView := view }
  if trimChars text.toList = [] then s
  else
    let s := match s.app.chatList.selectedContact with
      | some contact => s.orchSend s.app.orchHandle
          (.outgoingMessage contact.id ans.messageId (Utf8.encode text) 0)
      | none => s
    s.modApp fun a => { a with
      chatView := a.chatView.push ⟨ans.messageId, .sent, text, hhmm ans.nowSecs, s.opened, false⟩
      status := "Message sent" }

/-! ### Contacts -/

/-- Subscribe the stream to all contacts. -/
def resubscribeStreamToContacts (s : Sys ε) : Sys ε :=
  let contactIds := s.app.chatList.contacts.map Contact.id
  let streamCursor := if s.app.readStorage then storedCursor ans s.db else none
  s.streamTrySend s.app.streamTx ans.streamHasRoom (.subscribe contactIds streamCursor)

/-- The statements of `delete_contact`, up to the first that fails. -/
def deleteContactFrom (userId : String) (part : ℕ) :
    List (String → Storage → Storage) → Storage → Except String Unit × Storage
  | [], db => (.ok (), db)
  | f :: fs, db =>
    if ans.sqlFails (.deleteContact part) then (.error ans.error, db)
    else deleteContactFrom userId (part + 1) fs (f userId db)

def deleteContact (userId : String) (db : Storage) : Except String Unit × Storage :=
  deleteContactFrom ans userId 0
    [Storage.deleteContactRow, Storage.deleteContactMessages, Storage.deleteContactSecrets] db

/-- How far a deletion comes. -/
theorem deleteContact_cases (userId : String) (db : Storage) :
    ans.sqlFails (.deleteContact 0) = true ∧
      deleteContact ans userId db = (.error ans.error, db) ∨
    ans.sqlFails (.deleteContact 0) = false ∧
      (ans.sqlFails (.deleteContact 1) = true ∧
        deleteContact ans userId db = (.error ans.error, db.deleteContactRow userId) ∨
      ans.sqlFails (.deleteContact 1) = false ∧
        (ans.sqlFails (.deleteContact 2) = true ∧ deleteContact ans userId db =
          (.error ans.error, (db.deleteContactRow userId).deleteContactMessages userId) ∨
        ans.sqlFails (.deleteContact 2) = false ∧ deleteContact ans userId db = (.ok (),
          ((db.deleteContactRow userId).deleteContactMessages
            userId).deleteContactSecrets userId))) := by
  unfold deleteContact
  simp only [deleteContactFrom]
  cases h0 : ans.sqlFails (.deleteContact 0) with
  | true => exact .inl ⟨rfl, rfl⟩
  | false =>
    refine .inr ⟨rfl, ?_⟩
    cases h1 : ans.sqlFails (.deleteContact 1) with
    | true => exact .inl ⟨rfl, rfl⟩
    | false =>
      refine .inr ⟨rfl, ?_⟩
      cases h2 : ans.sqlFails (.deleteContact 2) with
      | true => exact .inl ⟨rfl, rfl⟩
      | false => exact .inr ⟨rfl, rfl⟩

/-- The rows of a peer may be gone: its messages on screen and in the queue are marked, and the
histories of the pipelines tell it. -/
def markGone (userId : String) (s : Sys ε) : Sys ε :=
  let shows (event : InternalEvent) : Bool := match event with
    | .bridge (.newMessage peerId _ _ _) => peerId = userId
    | _ => false
  { s.modApp fun a => { a with chatView := { a.chatView with
      messages := a.chatView.messages.map fun m =>
        { m with gone := m.gone || m.peer = some userId } } } with
    queue := s.queue.map fun q => { q with gone := q.gone || shows q.event }
    pipelines := s.pipelines.map fun p =>
      { p with world := { p.world with log := p.world.log ++ [.contactDeleted userId] } } }

/-- Delete the contact's rows, when the database is open. -/
def deleteRows (userId : String) (s : Sys ε) : Except String Unit × Sys ε :=
  if s.app.readStorage then
    let (result, db) := deleteContact ans userId s.db
    (result, markGone userId { s with db := db })
  else (.ok (), s)

/-- Take the contact out of the list, and out of the view if it is shown there. -/
def removeContact (peerId : String) (s : Sys ε) : Sys ε :=
  let s := s.orchCommand s.app.orchHandle (.forgetContact peerId)
  let s := match s.app.chatList.contacts.findIdx? fun c => c.id = peerId with
    | some i => s.modApp fun a => { a with chatList := a.chatList.removeAt i }
    | none => s
  let s := resubscribeStreamToContacts ans s
  let s := if s.app.chatView.contactName = peerId ||
      s.app.chatList.contacts.all fun c => c.id ≠ peerId
    then
      let next := s.app.chatList.selectedContact
      { s.modApp fun a => { a with chatView := { a.chatView with
          messages := [], contactName := (next.map Contact.displayName).getD "" } } with
        opened := next.map Contact.id }
    else s
  s.setStatus "Node removed."

/-- Carry a confirmed deletion out. -/
def confirmDelete (s : Sys ε) : Sys ε :=
  match s.app.deleteConfirm with
  | none => s
  | some peerId =>
    let s := s.modApp fun a => { a with deleteConfirm := none }
    match deleteRows ans peerId s with
    | (.error e, s) => s.setStatus ("Delete failed: " ++ e)
    | (.ok (), s) => removeContact ans peerId s

/-- Add a contact and let its session be established. -/
def finishAddContact (userId username : String) (s : Sys ε) : Sys ε :=
  let s := if s.app.readStorage && !ans.sqlFails .upsertContact
    then { s with db := s.db.upsertContact ⟨userId, username, ""⟩ } else s
  let s := s.modApp fun a =>
    { a with chatList := a.chatList.addContact ⟨userId, username, 0, none⟩ }
  let s := resubscribeStreamToContacts ans s
  let s := s.orchSend s.app.orchHandle (.activeChatChanged userId true)
  s.modApp fun a => { a with
    status := "Added @" ++ username ++ " — opening session"
    contactSearch := .new
    screen := .main }

def addSelectedSearchResult (s : Sys ε) : Sys ε :=
  match s.app.contactSearch.selected with
  | none => s
  | some result => finishAddContact ans result.userId result.username s

/-- The name an invite adds its owner under. -/
def inviteUsername (invite : Invite) : String :=
  match invite.un.filter fun un => un ≠ "" with
  | some un => un
  | none => Utf8.decodeLossy ((Utf8.encode invite.uuid).take 8)

def redeemPastedInvite (raw : String) (s : Sys ε) : Sys ε :=
  match E.parseInvite raw ans.nowSecs with
  | .error e =>
    s.modApp fun a => { a with contactSearch := a.contactSearch.setError ("Bad invite: " ++ e) }
  | .ok invite =>
    if invite.isExpired ans.nowSecs then
      s.modApp fun a => { a with contactSearch := a.contactSearch.setError "Invite expired" }
    else
      (s.modApp fun a => { a with contactSearch := { a.contactSearch with
        searching := true, status := some "Redeeming invite…" } }).spawn
          (.redeem invite (inviteUsername invite))

def submitContactSearch (s : Sys ε) : Sys ε :=
  let raw := String.ofList (trimChars s.app.contactSearch.query)
  if E.looksLikeInvite raw then redeemPastedInvite E ans raw s
  else
    let query := normalizeUsername s.app.contactSearch.query
    if !usernameIsSearchable query then
      let msg := "Username: 3–30 chars, letters/digits/_  (no @)"
      s.modApp fun a => { a with contactSearch := a.contactSearch.setError msg }
    else
      (s.modApp fun a => { a with contactSearch := { a.contactSearch with
        searching := true } }).spawn (.search query)

/-! ### Logging out -/

/-- Clear the session from disk and go back to the first screen. -/
def doLogout (s : Sys ε) : Sys ε :=
  match s.dir.clearSession ans.clear with
  | (.error e, dir) => { s with dir := dir }.setStatus ("Logout error: " ++ e)
  | (.ok (), dir) =>
    let s := s.streamTrySend s.app.streamTx ans.streamHasRoom .shutdown
    let db := if s.app.readStorage && !ans.sqlFails .clearStreamCursor
      then s.db.clearStreamCursor else s.db
    { s.modApp fun a => { a with
        orchHandle := none
        streamTx := none
        readStorage := false
        sessionKey := none
        currentSession := none
        pendingSession := none
        ourIdentityKey := none
        userId := ""
        deviceId := ""
        accessToken := ""
        connection := .disconnected
        contactSearch := .new
        chatList := .new
        chatView := .new ""
        settingsScreen := .new a.serverUrl a.transportLabel "—" "—" a.pqActive ""
        onboarding := .new
        screen := .onboarding } with
      dir := dir
      db := db
      grpc := ⟨none, none⟩
      opened := none }

/-! ### Settings -/

/-- Show the safety number with the selected contact. -/
def openSafetyNumberScreen (s : Sys ε) : Sys ε :=
  match s.app.chatList.selectedContact with
  | none => s.setStatus "Select a contact first"
  | some contact =>
    match s.app.ourIdentityKey with
    | none => s.setStatus "Identity key not available"
    | some ourKey =>
      let stored := if s.app.readStorage && !ans.sqlFails .getContactById
        then s.db.getContactById contact.id else none
      let theirKey := ((stored.filter fun c => c.identityKeyB64 ≠ "").bind fun c =>
        E.base64Decode c.identityKeyB64).map vecToKey32
      s.modApp fun a => { a with
        safetyNumber := some ⟨contact.displayName, vecToKey32 ourKey,
          theirKey.getD (List.replicate 32 0)⟩
        screen := .safetyNumber }

/-- Write the identity key to a file in the home directory. -/
def exportIdentityKey (s : Sys ε) : Sys ε :=
  match s.app.ourIdentityKey with
  | none => s.setStatus "Identity key not available"
  | some _ =>
    if ans.homeWritable then
      s.setStatus ("Key exported → construct_identity_" ++ s.app.userId ++ ".txt")
    else s.setStatus ("Export failed: " ++ ans.error)

def settingsAction (action : SettingsAction) (s : Sys ε) : Sys ε :=
  match action with
  | .back => s.setScreen .main
  | .logout => doLogout ans s
  | .showSafetyNumber => openSafetyNumberScreen E ans s
  | .exportKeys => exportIdentityKey ans s
  | .showMyQr => s.setScreen .identityQr

def handleSettings (key : KeyEvent) (s : Sys ε) : Sys ε :=
  match key.code with
  | .esc => s.setScreen .main
  | .up | .char 'k' => s.modApp fun a => { a with settingsScreen := a.settingsScreen.prev }
  | .down | .char 'j' => s.modApp fun a => { a with settingsScreen := a.settingsScreen.next }
  | .enter =>
    match s.app.settingsScreen.confirm with
    | some action => settingsAction E ans action s
    | none => s
  | .char 'l' | .char 'L' => doLogout ans s
  | .char 'q' | .char 'Q' => s.setScreen .identityQr
  | .char 's' | .char 'S' => openSafetyNumberScreen E ans s
  | _ => s

/-! ### Keys before there is a session -/

def handleOnboarding (key : KeyEvent) (s : Sys ε) : Sys ε :=
  match key.code with
  | .tab | .backTab => s.modApp fun a => { a with deviceLink := .new, screen := .deviceLink }
  | .enter =>
    let username := String.ofList (trimChars s.app.onboarding.username)
    startAuthRegister username
      (s.modApp fun a => { a with onboarding := { a.onboarding with status := none } })
  | .backspace => s.modApp fun a =>
    { a with onboarding := { a.onboarding.popChar with status := none } }
  | .char c =>
    if c = 'q' && key.modifiers = .none && s.app.onboarding.username.isEmpty ||
        c = 'c' && key.modifiers = .control
    then s.modApp fun a => { a with running := false }
    else s.modApp fun a => { a with onboarding := { a.onboarding.pushChar c with status := none } }
  | _ => s

def setUnlockError (msg : String) (s : Sys ε) : Sys ε :=
  s.modApp fun a => { a with unlockScreen := a.unlockScreen.setError msg }

/-- The passphrase opens the session on disk. -/
def unlock (passphrase : Bytes) (s : Sys ε) : Sys ε :=
  let dir := s.dir
  let s := { s with dir := s.dir.sessionPath }
  if !ans.readable then setUnlockError "Wrong passphrase or corrupted session" s
  else match dir.openSessionKey E.deriveKeys passphrase with
    | .ok (some sk) =>
      match dir.loadSessionEncrypted sk with
      | .ok (some session) =>
        startAuthRestorePreloaded session (s.modApp fun a => { a with sessionKey := some sk })
      | .ok none => setUnlockError "No session found" s
      | .error e => setUnlockError ("Session corrupted: " ++ e) s
    | .ok none => setUnlockError "No session found" s
    | .error _ => setUnlockError "Wrong passphrase or corrupted session" s

def handleUnlock (key : KeyEvent) (s : Sys ε) : Sys ε :=
  match key.code with
  | .backspace => s.modApp fun a => { a with unlockScreen := a.unlockScreen.popChar.clearError }
  | .char c => s.modApp fun a =>
    { a with unlockScreen := (a.unlockScreen.pushChar c).clearError }
  | .enter =>
    let (passphrase, unlockScreen) := s.app.unlockScreen.takePassphrase
    let s := s.modApp fun a => { a with unlockScreen := unlockScreen }
    if passphrase.isEmpty then setUnlockError "Enter your passphrase" s
    else unlock E ans passphrase s
  | _ => s

/-- The pending session is saved under the chosen passphrase, and the pipeline that waited for the
database key starts. -/
def protect (passphrase : Bytes) (session : Session) (s : Sys ε) : Sys ε :=
  match E.deriveKeys passphrase ans.masterSalt with
  | .error e => setUnlockError ("Key derivation failed: " ++ e) s
  | .ok keys =>
    let sk : SessionKey := ⟨keys, ans.masterSalt⟩
    match s.dir.saveFile (ConfigDir.sessionFile session (some sk)) ans.save with
    | (.error e, dir) => setUnlockError ("Save failed: " ++ e) { s with dir := dir }
    | (.ok (), dir) =>
      let s := { s.modApp fun a => { a with sessionKey := some sk, pendingSession := none } with
        dir := dir }
      let s := match s.app.currentSession with
        | some full => startOrchestrator E ans full s.app.userId s.app.deviceId s
        | none => s
      s.setScreen .main

def handleSetPassphrase (key : KeyEvent) (s : Sys ε) : Sys ε :=
  match key.code with
  | .backspace => s.modApp fun a => { a with unlockScreen := a.unlockScreen.popChar }
  | .char c => s.modApp fun a => { a with unlockScreen := a.unlockScreen.pushChar c }
  | .enter =>
    let (passphrase, unlockScreen) := s.app.unlockScreen.takePassphrase
    let s := s.modApp fun a => { a with unlockScreen := unlockScreen }
    if passphrase.isEmpty then setUnlockError "Choose a passphrase to protect your session" s
    else match s.app.pendingSession with
      | none => s
      | some session => protect E ans passphrase session s
  | _ => s

def handleDeviceLink (key : KeyEvent) (s : Sys ε) : Sys ε :=
  match key.code with
  | .esc => if key.modifiers = .none then s.setScreen .onboarding else s
  | .enter =>
    let token := String.ofList (trimChars s.app.deviceLink.token)
    if token = "" then
      s.modApp fun a =>
        { a with deviceLink := a.deviceLink.setStatus "Paste the link token first" true }
    else startAuthLink token (s.modApp fun a => { a with deviceLink := a.deviceLink.clearStatus })
  | .backspace => s.modApp fun a => { a with deviceLink := a.deviceLink.popChar }
  | .char c =>
    if c = 'q' && key.modifiers = .none then s.setScreen .onboarding
    else if c = 'c' && key.modifiers = .control then s.modApp fun a => { a with running := false }
    else s.modApp fun a => { a with deviceLink := a.deviceLink.pushChar c }
  | _ => s

/-! ### Keys of the chat screens -/

def handleContactListKey (key : KeyEvent) (s : Sys ε) : Sys ε :=
  match key.code with
  | .down | .char 'j' => s.modApp fun a => { a with chatList := a.chatList.next }
  | .up | .char 'k' => s.modApp fun a => { a with chatList := a.chatList.prev }
  | .char 'x' =>
    match s.app.chatList.selectedContact with
    | some c => if key.modifiers = .none then
        s.modApp fun a => { a with deleteConfirm := some c.id } else s
    | none => s
  | .enter | .tab =>
    let s := match s.app.chatList.selectedContact with
      | some c => openConversation ans c s
      | none => s
    setFocus .chatView s
  | .char 's' => if key.modifiers = .none then s.setScreen .settings else s
  | .char 'a' | .char 'n' =>
    if key.modifiers = .none then
      s.modApp fun a => { a with contactSearch := .new, screen := .contactSearch } else s
  | _ => s

def handleChatViewKey (key : KeyEvent) (s : Sys ε) : Sys ε :=
  let scroll (f : ChatViewPane → ChatViewPane) : Sys ε :=
    s.modApp fun a => { a with chatView := f a.chatView }
  match key.code with
  | .tab | .char 'i' => setFocus .compose s
  | .backTab | .esc => setFocus .contactList s
  | .pageUp | .char 'u' => scroll fun v => v.scrollUp 10
  | .pageDown | .char 'd' => scroll fun v => v.scrollDown 10
  | .up | .char 'k' => scroll fun v => v.scrollUp 1
  | .down | .char 'j' => scroll fun v => v.scrollDown 1
  | .home => scroll ChatViewPane.scrollToTop
  | .endKey => scroll ChatViewPane.scrollToBottom
  | _ => s

def handleComposeKey (key : KeyEvent) (s : Sys ε) : Sys ε :=
  match key.code with
  | .esc => setFocus .chatView s
  | .enter => sendCompose ans s
  | .backspace => s.modApp fun a => { a with chatView := a.chatView.popChar }
  | .char c => s.modApp fun a => { a with chatView := a.chatView.pushChar c }
  | _ => s

def handleMain (key : KeyEvent) (s : Sys ε) : Sys ε :=
  if s.app.deleteConfirm.isSome then
    if key.code = .char 'y' || key.code = .char 'Y' then confirmDelete ans s
    else s.modApp fun a => { a with deleteConfirm := none }
  else if isQuit key && s.app.focus ≠ .compose then s.modApp fun a => { a with running := false }
  else match s.app.focus with
    | .contactList => handleContactListKey ans key s
    | .chatView => handleChatViewKey key s
    | .compose => handleComposeKey ans key s

def handleContactSearch (key : KeyEvent) (s : Sys ε) : Sys ε :=
  let edit (f : ContactSearchScreen → ContactSearchScreen) : Sys ε :=
    s.modApp fun a => { a with contactSearch := f a.contactSearch }
  match key.code with
  | .esc => s.modApp fun a => { a with contactSearch := .new, screen := .main }
  | .down | .tab => edit ContactSearchScreen.next
  | .up | .backTab => edit ContactSearchScreen.prev
  | .enter =>
    if s.app.contactSearch.selected.isSome then addSelectedSearchResult ans s
    else submitContactSearch E ans s
  | .backspace => edit ContactSearchScreen.popChar
  | .char c =>
    if c = 'a' && key.modifiers = .control then addSelectedSearchResult ans s
    else edit fun p => p.pushChar c
  | _ => s

/-! ### The two inputs of the app's loop -/

def handleEvent (key : KeyEvent) (s : Sys ε) : Sys ε :=
  if !key.isPress then s
  else if key.code = .char 'c' && key.modifiers = .control then
    s.modApp fun a => { a with running := false }
  else match s.app.screen with
    | .startup | .connecting _ | .registering => s
    | .authError _ =>
      -- whoever came from the unlock screen goes back there
      if s.app.sessionKey.isSome then s.modApp fun a => { a with
        unlockScreen := a.unlockScreen.resetForMode .unlock, screen := .unlock }
      else s.setScreen .onboarding
    | .unlock => handleUnlock E ans key s
    | .setPassphrase => handleSetPassphrase E ans key s
    | .onboarding => handleOnboarding key s
    | .deviceLink => handleDeviceLink key s
    | .main => handleMain ans key s
    | .settings => handleSettings E ans key s
    | .contactSearch => handleContactSearch E ans key s
    | .safetyNumber | .identityQr => s.setScreen .settings

/-- An event of a pipeline. A message is shown whatever conversation is open. -/
def handleBridgeEvent (event : BridgeEvent) (gone : Bool) (s : Sys ε) : Sys ε :=
  match event with
  | .newMessage peerId _ text _ => s.modApp fun a => { a with chatView :=
      (a.chatView.push
        ⟨ans.messageId, .received, text, hhmm ans.nowSecs, some peerId, gone⟩).onNewMessage }
  | .messageDelivered _ => s
  | .streamStatus connected => s.modApp fun a =>
    if connected then
      { a with connection := .connected a.transportLabel none, status := "● connected" }
    else { a with connection := .disconnected, status := "○ disconnected" }
  | .streamReconnecting attempt delayMs => s.modApp fun a => { a with
      connection := .reconnecting attempt delayMs
      status := "↺ reconnecting (attempt " ++ toString attempt ++ ")" }
  | .error e => s.setStatus ("Bridge error: " ++ e)
  | .sessionReady contactId =>
    let name := ((s.app.chatList.contacts.find? fun c => c.id = contactId).map
      Contact.displayName).getD "contact"
    s.setStatus ("Session ready with @" ++ name)

def handleP2pStatus (peerId : String) (connected : Bool) (latencyMs : Option ℕ) (isRelay : Bool)
    (s : Sys ε) : Sys ε :=
  s.modApp fun a =>
    if connected then
      let latency := (latencyMs.map fun l => toString l ++ "ms").getD "unknown"
      { a with
        status := "P2P connected to " ++ peerId ++ " (" ++ latency ++ " latency)"
        connection := .connected "P2P" latencyMs }
    else if isRelay then
      { a with
        status := "P2P failed for " ++ peerId ++ ", using relay"
        connection := .connected "Relay" none }
    else { a with status := "P2P disconnected from " ++ peerId }

/-- The error of a search on screen. -/
def searchErrorText (msg : String) : String :=
  if containsText msg "rate limit" || containsText msg "8:" then
    "Search limit (5/hour). Wait, then Enter once."
  else msg

def handleInternal (event : InternalEvent) (gone : Bool) (s : Sys ε) : Sys ε :=
  match event with
  | .auth msg =>
    let s := if s.app.screen = .registering then s.modApp fun a => { a with
        ticking := false
        registration := { a.registration with activeStep := registrationSteps } }
      else s
    handleAuthMsg E ans msg s
  | .tokenRefresh msg => handleTokenRefreshMsg ans msg s
  | .bridge event => handleBridgeEvent ans event gone s
  | .contactSearchResult results => s.modApp fun a =>
    { a with contactSearch := a.contactSearch.setResults results }
  | .contactSearchError msg => s.modApp fun a =>
    { a with contactSearch := a.contactSearch.setError (searchErrorText msg) }
  | .inviteAccepted userId username => finishAddContact ans userId username s
  | .registrationStep reached => s.modApp fun a =>
    { a with registration := a.registration.advance reached.index }
  | .tick => if s.app.screen = .registering then s.modApp fun a =>
      { a with registration := a.registration.tick } else s
  | .streamAuthRequired => refreshTokenNow s
  | .p2pStatus peerId connected latencyMs isRelay =>
    handleP2pStatus peerId connected latencyMs isRelay s

end App

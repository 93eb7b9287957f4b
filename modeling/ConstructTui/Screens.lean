import ConstructTui.Storage

/-!
# The screens

The state behind the screens and panes, without their drawing. A list on screen keeps the index of
its selected row.

A message on screen says nothing about who it came from; here it carries its peer for the
histories of runs, and whether that peer's rows were deleted since.

## Main definitions

* `Contact`, `ChatListPane`: the contact list.
* `ChatMessage`, `ChatViewPane`: the open conversation.
* `ContactSearchScreen`, `UnlockScreen`, `OnboardingScreen`, `DeviceLinkScreen`,
  `RegistrationScreen`, `SettingsScreen`.

## Main results

* `ChatListPane.Valid`: something is selected exactly when there is a contact, and every operation
  keeps it so.
* `ChatListPane.selection_of_ops`: the selection of a list after any operations.
-/

/-! ### The contact list -/

/-- An entry of the contact list. -/
structure Contact where
  id : String
  displayName : String
  unread : ℕ
  lastMessage : Option String
  deriving DecidableEq, Repr

structure ChatListPane where
  contacts : List Contact
  selected : Option ℕ
  focused : Bool
  deriving DecidableEq, Repr

namespace ChatListPane

def new : ChatListPane := ⟨[], none, true⟩

/-- Replace the list, after loading it from the database; the first contact becomes selected. -/
def setContacts (p : ChatListPane) (contacts : List Contact) : ChatListPane :=
  { p with contacts := contacts, selected := if contacts.isEmpty then none else some 0 }

def addContact (p : ChatListPane) (contact : Contact) : ChatListPane :=
  { p with
    contacts := p.contacts ++ [contact]
    selected := if p.selected.isNone then some 0 else p.selected }

def next (p : ChatListPane) : ChatListPane :=
  { p with selected := p.selected.map fun i => min (i + 1) (p.contacts.length - 1) }

def prev (p : ChatListPane) : ChatListPane :=
  { p with selected := p.selected.map fun i => i - 1 }

def selectedContact (p : ChatListPane) : Option Contact :=
  p.selected.bind fun i => p.contacts[i]?

/-- Remove the contact at an index; its place in the list stays selected. -/
def removeAt (p : ChatListPane) (index : ℕ) : ChatListPane :=
  if p.contacts.length ≤ index then p
  else
    let contacts := p.contacts.eraseIdx index
    { p with
      contacts := contacts
      selected := if contacts.isEmpty then none else some (min index (contacts.length - 1)) }

theorem contacts_removeAt (p : ChatListPane) (index : ℕ) :
    (p.removeAt index).contacts = p.contacts.eraseIdx index := by
  unfold removeAt
  split
  · next h => exact (List.eraseIdx_of_length_le h).symm
  · rfl

/-- The selection stands on a contact, and there is one as soon as there is a contact. -/
def Valid (p : ChatListPane) : Prop :=
  match p.selected with
  | none => p.contacts = []
  | some i => i < p.contacts.length

theorem valid_new : new.Valid := rfl

theorem Valid.setContacts {p : ChatListPane} (contacts : List Contact) :
    (p.setContacts contacts).Valid := by
  cases contacts with
  | nil => rfl
  | cons c cs => exact Nat.succ_pos _

theorem Valid.addContact {p : ChatListPane} (h : p.Valid) (contact : Contact) :
    (p.addContact contact).Valid := by
  unfold Valid at h ⊢
  cases hs : p.selected with
  | none => simp [ChatListPane.addContact, hs]
  | some i =>
    rw [hs] at h
    have hi : i < p.contacts.length := h
    simpa [ChatListPane.addContact, hs] using Nat.lt_succ_of_lt hi

theorem Valid.next {p : ChatListPane} (h : p.Valid) : p.next.Valid := by
  unfold Valid at h ⊢
  cases hs : p.selected with
  | none => simpa [ChatListPane.next, hs] using h
  | some i =>
    rw [hs] at h
    have hi : i < p.contacts.length := h
    simp only [ChatListPane.next, hs, Option.map_some]
    omega

theorem Valid.prev {p : ChatListPane} (h : p.Valid) : p.prev.Valid := by
  unfold Valid at h ⊢
  cases hs : p.selected with
  | none => simpa [ChatListPane.prev, hs] using h
  | some i =>
    rw [hs] at h
    have hi : i < p.contacts.length := h
    simp only [ChatListPane.prev, hs, Option.map_some]
    omega

theorem Valid.removeAt {p : ChatListPane} (h : p.Valid) (index : ℕ) :
    (p.removeAt index).Valid := by
  unfold ChatListPane.removeAt
  by_cases hi : p.contacts.length ≤ index
  · rwa [if_pos hi]
  · rw [if_neg hi]
    cases he : p.contacts.eraseIdx index with
    | nil => rfl
    | cons c cs =>
      show min index ((c :: cs).length - 1) < (c :: cs).length
      simp only [List.length_cons]
      omega

/-- A list with a contact has a selected one. -/
theorem Valid.selectedContact_eq_none {p : ChatListPane} (h : p.Valid) :
    p.selectedContact = none ↔ p.contacts = [] := by
  unfold Valid at h
  unfold ChatListPane.selectedContact
  cases hs : p.selected with
  | none =>
    rw [hs] at h
    simpa using h
  | some i =>
    rw [hs] at h
    have hi : i < p.contacts.length := h
    constructor
    · intro hn
      simp [hi] at hn
    · intro hc
      simp [hc] at hi

/-- Adding a contact to a list that has one does not move the selection. -/
theorem Valid.selectedContact_addContact {p : ChatListPane} (h : p.Valid) (hne : p.contacts ≠ [])
    (contact : Contact) : (p.addContact contact).selectedContact = p.selectedContact := by
  unfold Valid at h
  unfold ChatListPane.selectedContact ChatListPane.addContact
  cases hs : p.selected with
  | none =>
    rw [hs] at h
    exact absurd h hne
  | some i =>
    rw [hs] at h
    have hi : i < p.contacts.length := h
    simp [List.getElem?_append_left hi]

theorem selectedContact_setContacts (p : ChatListPane) (contacts : List Contact) :
    (p.setContacts contacts).selectedContact = contacts.head? := by
  cases contacts <;> rfl

/-- The operations on the list. -/
inductive Op
  | setContacts (contacts : List Contact)
  | addContact (contact : Contact)
  | next
  | prev
  | removeAt (index : ℕ)
  deriving DecidableEq, Repr

def apply (p : ChatListPane) : Op → ChatListPane
  | .setContacts contacts => p.setContacts contacts
  | .addContact contact => p.addContact contact
  | .next => p.next
  | .prev => p.prev
  | .removeAt index => p.removeAt index

theorem Valid.apply {p : ChatListPane} (h : p.Valid) (op : Op) : (p.apply op).Valid := by
  cases op with
  | setContacts contacts => exact .setContacts contacts
  | addContact contact => exact h.addContact contact
  | next => exact h.next
  | prev => exact h.prev
  | removeAt index => exact h.removeAt index

theorem Valid.foldl_apply {p : ChatListPane} (h : p.Valid) (ops : List Op) :
    (ops.foldl ChatListPane.apply p).Valid := by
  induction ops generalizing p with
  | nil => exact h
  | cons op ops ih => exact ih (h.apply op)

theorem Valid.selected_eq_none {p : ChatListPane} (h : p.Valid) :
    p.selected = none ↔ p.contacts = [] := by
  unfold Valid at h
  cases hs : p.selected with
  | none =>
    rw [hs] at h
    exact iff_of_true rfl h
  | some i =>
    rw [hs] at h
    have hi : i < p.contacts.length := h
    exact iff_of_false (Option.some_ne_none i) (List.ne_nil_of_length_pos (Nat.zero_lt_of_lt hi))

theorem Valid.lt_length {p : ChatListPane} (h : p.Valid) {i : ℕ} (hi : p.selected = some i) :
    i < p.contacts.length := by
  unfold Valid at h
  rwa [hi] at h

/-- **The selection stays valid** through any operations on a new list. -/
theorem selection_of_ops (ops : List Op) :
    let p := ops.foldl apply new
    (p.selected = none ↔ p.contacts = []) ∧
      (∀ i, p.selected = some i → i < p.contacts.length) ∧
      (p.contacts ≠ [] → ∃ c, p.selectedContact = some c) := by
  have h : (ops.foldl apply new).Valid := valid_new.foldl_apply ops
  refine ⟨h.selected_eq_none, fun i => h.lt_length, fun hne => ?_⟩
  exact Option.ne_none_iff_exists'.mp fun hnone => hne (h.selectedContact_eq_none.mp hnone)

end ChatListPane

/-! ### The open conversation -/

inductive MessageKind
  | sent
  | received
  deriving DecidableEq, Repr

/-- A message on screen. `peer` is who it came from or was meant for, and `gone` says that the
peer was deleted after the message had been stored. -/
structure ChatMessage where
  id : String
  kind : MessageKind
  text : String
  time : String
  peer : Option String
  gone : Bool
  deriving DecidableEq, Repr

structure ChatViewPane where
  contactName : String
  messages : List ChatMessage
  compose : List Char
  focused : Bool
  composeFocused : Bool
  scrollOffset : ℕ
  deriving DecidableEq, Repr

namespace ChatViewPane

def new (contactName : String) : ChatViewPane := ⟨contactName, [], [], false, false, 0⟩

def pushChar (v : ChatViewPane) (c : Char) : ChatViewPane := { v with compose := v.compose ++ [c] }

def popChar (v : ChatViewPane) : ChatViewPane := { v with compose := v.compose.dropLast }

/-- The typed text, and the pane without it. -/
def takeCompose (v : ChatViewPane) : String × ChatViewPane :=
  (String.ofList v.compose, { v with compose := [] })

def scrollUp (v : ChatViewPane) (n : ℕ) : ChatViewPane :=
  { v with scrollOffset := min (v.scrollOffset + n) (v.messages.length - 1) }

def scrollDown (v : ChatViewPane) (n : ℕ) : ChatViewPane :=
  { v with scrollOffset := v.scrollOffset - n }

def scrollToTop (v : ChatViewPane) : ChatViewPane :=
  { v with scrollOffset := v.messages.length - 1 }

def scrollToBottom (v : ChatViewPane) : ChatViewPane := { v with scrollOffset := 0 }

/-- A message joins the view. -/
def push (v : ChatViewPane) (m : ChatMessage) : ChatViewPane :=
  { v with messages := v.messages ++ [m] }

/-- Someone who reads the history keeps their place. -/
def onNewMessage (v : ChatViewPane) : ChatViewPane :=
  if v.scrollOffset = 0 then v else { v with scrollOffset := v.scrollOffset + 1 }

@[simp] theorem messages_onNewMessage (v : ChatViewPane) :
    v.onNewMessage.messages = v.messages := by
  unfold onNewMessage
  split <;> rfl

end ChatViewPane

/-! ### Adding a contact -/

structure SearchResult where
  userId : String
  username : String
  displayName : String
  deriving DecidableEq, Repr

structure ContactSearchScreen where
  query : List Char
  results : List SearchResult
  status : Option String
  isError : Bool
  searching : Bool
  selectedIndex : Option ℕ
  deriving DecidableEq, Repr

namespace ContactSearchScreen

def new : ContactSearchScreen := ⟨[], [], none, false, false, none⟩

def pushChar (p : ContactSearchScreen) (c : Char) : ContactSearchScreen :=
  { p with query := p.query ++ [c], results := [], selectedIndex := none, status := none }

def popChar (p : ContactSearchScreen) : ContactSearchScreen :=
  { p with query := p.query.dropLast, results := [], selectedIndex := none, status := none }

def next (p : ContactSearchScreen) : ContactSearchScreen :=
  if p.results.isEmpty then p
  else { p with selectedIndex := some ((p.selectedIndex.map fun i =>
    min (i + 1) (p.results.length - 1)).getD 0) }

def prev (p : ContactSearchScreen) : ContactSearchScreen :=
  { p with selectedIndex := some ((p.selectedIndex.map fun i => i - 1).getD 0) }

def setResults (p : ContactSearchScreen) (results : List SearchResult) : ContactSearchScreen :=
  { p with
    results := results
    selectedIndex := if results.isEmpty then none else some 0
    status := some (if results.isEmpty then "No results" else "Enter = add to chats")
    isError := false
    searching := false }

def setError (p : ContactSearchScreen) (msg : String) : ContactSearchScreen :=
  { p with status := some msg, isError := true, searching := false }

def selected (p : ContactSearchScreen) : Option SearchResult :=
  p.selectedIndex.bind fun i => p.results[i]?

end ContactSearchScreen

/-! ### Passphrases, registration and linking -/

inductive UnlockMode
  | unlock
  | setNew
  deriving DecidableEq, Repr

structure UnlockScreen where
  passphrase : List Char
  error : Option String
  mode : UnlockMode
  deriving DecidableEq, Repr

namespace UnlockScreen

def new (mode : UnlockMode) : UnlockScreen := ⟨[], none, mode⟩

def resetForMode (_ : UnlockScreen) (mode : UnlockMode) : UnlockScreen := ⟨[], none, mode⟩

/-- The limit is on the bytes typed so far. -/
def pushChar (p : UnlockScreen) (c : Char) : UnlockScreen :=
  if (String.ofList p.passphrase).utf8ByteSize < 128
  then { p with passphrase := p.passphrase ++ [c] } else p

def popChar (p : UnlockScreen) : UnlockScreen := { p with passphrase := p.passphrase.dropLast }

def takePassphrase (p : UnlockScreen) : Bytes × UnlockScreen :=
  (Utf8.encode (String.ofList p.passphrase), { p with passphrase := [] })

def setError (p : UnlockScreen) (msg : String) : UnlockScreen := { p with error := some msg }

def clearError (p : UnlockScreen) : UnlockScreen := { p with error := none }

end UnlockScreen

structure OnboardingScreen where
  username : List Char
  status : Option String
  deriving DecidableEq, Repr

namespace OnboardingScreen

def new : OnboardingScreen := ⟨[], none⟩

def pushChar (p : OnboardingScreen) (c : Char) : OnboardingScreen :=
  if (String.ofList p.username).utf8ByteSize < 32
  then { p with username := p.username ++ [c] } else p

def popChar (p : OnboardingScreen) : OnboardingScreen :=
  { p with username := p.username.dropLast }

end OnboardingScreen

/-- The link form; the tab that shows a token of this device is never opened. -/
structure DeviceLinkScreen where
  token : List Char
  status : Option String
  isError : Bool
  deriving DecidableEq, Repr

namespace DeviceLinkScreen

def new : DeviceLinkScreen :=
  ⟨[], some "Paste or type the link token shown on your other device", false⟩

def pushChar (p : DeviceLinkScreen) (c : Char) : DeviceLinkScreen :=
  if (String.ofList p.token).utf8ByteSize < 64 then { p with token := p.token ++ [c] } else p

def popChar (p : DeviceLinkScreen) : DeviceLinkScreen := { p with token := p.token.dropLast }

def setStatus (p : DeviceLinkScreen) (msg : String) (error : Bool) : DeviceLinkScreen :=
  { p with status := some msg, isError := error }

def clearStatus (p : DeviceLinkScreen) : DeviceLinkScreen :=
  { p with status := none, isError := false }

end DeviceLinkScreen

/-- The number of entries of the registration checklist. -/
def registrationSteps : ℕ := 7

/-- The checklist: how many steps have started, and the frame of the spinner. -/
structure RegistrationScreen where
  activeStep : ℕ
  spinnerTick : UInt8
  deriving DecidableEq, Repr

namespace RegistrationScreen

def new : RegistrationScreen := ⟨0, 0⟩

def advance (p : RegistrationScreen) (step : ℕ) : RegistrationScreen :=
  if p.activeStep < step then { p with activeStep := step } else p

def tick (p : RegistrationScreen) : RegistrationScreen :=
  { p with spinnerTick := p.spinnerTick + 1 }

end RegistrationScreen

/-! ### Settings -/

inductive SettingsAction
  | logout
  | showSafetyNumber
  | exportKeys
  | showMyQr
  | back
  deriving DecidableEq, Repr

/-- What the rows of the settings do: five show a value, one separates, the others act. -/
def settingsItems : List (Option SettingsAction) :=
  [none, none, none, none, none, none, some .showMyQr, some .showSafetyNumber, some .exportKeys,
    some .logout, some .back]

structure SettingsScreen where
  server : String
  transportLabel : String
  deviceId : String
  userId : String
  pqActive : Bool
  signingKeyHex : String
  selectedIndex : Option ℕ
  deriving DecidableEq, Repr

namespace SettingsScreen

/-- The selection starts on the first row that acts. -/
def new (server transportLabel deviceId userId : String) (pqActive : Bool)
    (signingKeyHex : String) : SettingsScreen :=
  ⟨server, transportLabel, deviceId, userId, pqActive, signingKeyHex, some 6⟩

def next (p : SettingsScreen) : SettingsScreen :=
  { p with selectedIndex := some ((p.selectedIndex.map fun i =>
    min (i + 1) (settingsItems.length - 1)).getD 0) }

def prev (p : SettingsScreen) : SettingsScreen :=
  { p with selectedIndex := some ((p.selectedIndex.map fun i => i - 1).getD 0) }

def confirm (p : SettingsScreen) : Option SettingsAction :=
  (p.selectedIndex.bind fun i => settingsItems[i]?).join

end SettingsScreen

/-- A safety number on screen: whose it is, and the two keys it is computed from. -/
structure SafetyNumberScreen where
  contactName : String
  ourKey : Bytes
  theirKey : Bytes
  deriving DecidableEq, Repr

import ConstructTui.App.Acts
import ConstructTui.App.Contacts

/-!
# Safety numbers

Two users compare the number that each of them is shown for the other. It is computed from both
identity keys, in an order that does not depend on whose screen it is, so it would be the same on
both screens if each client knew the key of the other. No client does: contacts are stored without
their keys, and every number is computed with zeros in the place of the contact's key.

## Main definitions

* `computeSafetyNumber`.
* `Sys.knownKey`: the identity key the client has for a contact.
* `Sys.ShowsNumber`: a step brings a number to the screen.
* `Sys.Meaningful`: the numbers that two users are shown agree, and are of known keys.

## Main results

* `computeSafetyNumber_comm`, `computeSafetyNumber_groups`: the number does not depend on the order
  of the keys, and is made of twelve groups of five digits.
* `Sys.ShowsNumber.of_known`: a client that has the contact's key shows the number of both keys.
* `Sys.meaningful_iff`: the numbers are meaningful exactly as long as nobody asks for one.
-/

/-! ### The number -/

/-- Five digits at least. -/
def pad5 (n : UInt64) : String :=
  let digits := Nat.toDigits 10 n.toNat
  String.ofList (List.replicate (5 - digits.length) '0' ++ digits)

/-- The digits that five bytes of the digest are turned into. -/
def safetyGroup (digest : Bytes) (i : ℕ) : String :=
  let bytes := (digest.drop (i * 5)).take 5
  let n := bytes.foldl (fun (acc : UInt64) b => acc <<< 8 ||| b.toUInt64) 0
  pad5 (n % 100000)

/-- The smaller key goes first. -/
def computeSafetyNumber (sha512 : Bytes → {digest : Bytes // digest.length = 64})
    (ourIdentity theirIdentity : Bytes) : String :=
  let keys := if ourIdentity ≤ theirIdentity then ourIdentity ++ theirIdentity
    else theirIdentity ++ ourIdentity
  let digest := sha512 (Utf8.encode "construct-safety-number-v1\x00" ++ keys)
  " ".intercalate ((List.range 12).map (safetyGroup digest.1))

section Number

variable (sha512 : Bytes → {digest : Bytes // digest.length = 64})

theorem Bytes.le_total (a b : Bytes) : a ≤ b ∨ b ≤ a :=
  have : Std.Asymm fun x y : UInt8 => x < y := ⟨fun _ _ => UInt8.lt_asymm⟩
  List.le_total a b

theorem Bytes.le_antisymm {a b : Bytes} (h : a ≤ b) (h' : b ≤ a) : a = b :=
  have : Std.Asymm fun x y : UInt8 => x < y := ⟨fun _ _ => UInt8.lt_asymm⟩
  have : Std.Trichotomous fun x y : UInt8 => x < y :=
    ⟨fun _ _ h h' => UInt8.le_antisymm (UInt8.not_lt.mp h') (UInt8.not_lt.mp h)⟩
  List.le_antisymm h h'

/-- Both sides compute the same number. -/
theorem computeSafetyNumber_comm (a b : Bytes) :
    computeSafetyNumber sha512 a b = computeSafetyNumber sha512 b a := by
  have hkeys : (if a ≤ b then a ++ b else b ++ a) = if b ≤ a then b ++ a else a ++ b := by
    by_cases hab : a ≤ b
    · by_cases hba : b ≤ a
      · rw [Bytes.le_antisymm hab hba]
      · rw [if_pos hab, if_neg hba]
    · rw [if_neg hab, if_pos ((Bytes.le_total a b).resolve_left hab)]
  unfold computeSafetyNumber
  rw [hkeys]

theorem pad5_digits {n : UInt64} (hn : n < 100000) :
    (pad5 n).toList.length = 5 ∧ ∀ c ∈ (pad5 n).toList, c.isDigit := by
  have hlength : (Nat.toDigits 10 n.toNat).length ≤ 5 :=
    (Nat.length_toDigits_le_iff (by decide) (by decide)).mpr (UInt64.lt_iff_toNat_lt.mp hn)
  unfold pad5
  rw [String.toList_ofList]
  constructor
  · rw [List.length_append, List.length_replicate]
    omega
  · intro c hc
    rcases List.mem_append.mp hc with hc | hc
    · rw [List.eq_of_mem_replicate hc]
      rfl
    · exact Nat.isDigit_of_mem_toDigits (by decide) (by decide) hc

/-- The number is made of twelve groups of five digits. -/
theorem computeSafetyNumber_groups (a b : Bytes) : ∃ groups : List String, groups.length = 12 ∧
    (∀ g ∈ groups, g.toList.length = 5 ∧ ∀ c ∈ g.toList, c.isDigit) ∧
    computeSafetyNumber sha512 a b = " ".intercalate groups := by
  unfold computeSafetyNumber
  refine ⟨(List.range 12).map (safetyGroup _), ?_, fun g hg => ?_, rfl⟩
  · rw [List.length_map, List.length_range]
  · obtain ⟨i, -, rfl⟩ := List.mem_map.mp hg
    exact pad5_digits (UInt64.mod_lt _ (by decide))

end Number

/-- A key of the right length is taken as it is. -/
theorem vecToKey32_of_length {key : Bytes} (h : key.length = 32) : vecToKey32 key = key := by
  unfold vecToKey32
  rw [List.take_of_length_le h.le, h]
  exact List.append_nil key

/-- The number on screen. -/
def SafetyNumberScreen.number (sha512 : Bytes → {digest : Bytes // digest.length = 64})
    (p : SafetyNumberScreen) : String := computeSafetyNumber sha512 p.ourKey p.theirKey

variable {ε : Type} {E : AppExternals ε} {ans : Answers ε}

namespace Sys

/-! ### Who is shown one -/

/-- The identity key that the client has for a contact. -/
def knownKey (E : AppExternals ε) (s : Sys ε) (id : String) : Option Bytes :=
  ((s.db.getContactById id).filter fun c => c.identityKeyB64 ≠ "").bind fun c =>
    E.base64Decode c.identityKeyB64

/-- A key that asks for the safety number of the selected contact, when there is one. -/
def opensSafetyNumber (s : Sys ε) : Label ε → Bool
  | .key key _ => s.app.running && key.isPress &&
      !(key.code = .char 'c' && key.modifiers = .control) && s.app.screen = .settings &&
      (key.code = .char 's' || key.code = .char 'S' ||
        key.code = .enter && s.app.settingsScreen.confirm = some .showSafetyNumber) &&
      s.app.chatList.selectedContact.isSome && s.app.ourIdentityKey.isSome
  | _ => false

/-- The step brings the number for a contact to the screen, on a device with the identity `key`. -/
structure ShowsNumber (E : AppExternals ε) (s : Sys ε) (a : Label ε) (id : String) (key : Bytes)
    (p : SafetyNumberScreen) : Prop where
  hidden : s.app.screen ≠ .safetyNumber
  contact : (s.app.chatList.selectedContact.map Contact.id) = some id
  ours : s.app.ourIdentityKey = some key
  shown : ∃ s', step E s a = some s' ∧ s'.app.screen = .safetyNumber ∧ s'.app.safetyNumber = some p

end Sys

namespace App

theorem entry_ne {screen : Screen} (h : screen.entry) : screen ≠ .safetyNumber := by
  rintro rfl
  cases h

theorem browsing_ne {screen : Screen} (h : screen.browsing) : screen ≠ .safetyNumber := by
  rintro rfl
  cases h

theorem screen_of_shows {P : Screen → Prop} {s t : Sys ε}
    (h : Account.Shows P s.account t.account) : P t.app.screen := by
  obtain ⟨screen, extra, hscreen, -, heq⟩ := h
  have hscreen' : t.app.screen = screen := congrArg Account.screen heq
  exact hscreen' ▸ hscreen

/-- What opens the safety number from the settings. -/
theorem screen_openSafetyNumberScreen {s : Sys ε} (hscreen : s.app.screen = .settings)
    (h : (openSafetyNumberScreen E ans s).app.screen = .safetyNumber) :
    s.app.chatList.selectedContact.isSome ∧ s.app.ourIdentityKey.isSome := by
  unfold openSafetyNumberScreen at h
  split at h
  · cases hscreen.symm.trans h
  · next hcontact =>
    split at h
    · cases hscreen.symm.trans h
    · next hkey => exact ⟨by rw [hcontact]; rfl, by rw [hkey]; rfl⟩

theorem screen_doLogout {s : Sys ε} (hscreen : s.app.screen = .settings) :
    (doLogout ans s).app.screen ≠ .safetyNumber := by
  unfold doLogout
  split
  · show s.app.screen ≠ .safetyNumber
    rw [hscreen]
    exact nofun
  · exact nofun

theorem screen_exportIdentityKey (s : Sys ε) :
    (exportIdentityKey ans s).app.screen = s.app.screen := by
  unfold exportIdentityKey
  split
  · rfl
  · split <;> rfl

/-- The keys of the settings that open the safety number. -/
theorem screen_handleSettings {s : Sys ε} {key : KeyEvent} (hscreen : s.app.screen = .settings)
    (h : (handleSettings E ans key s).app.screen = .safetyNumber) :
    (key.code = .char 's' ∨ key.code = .char 'S' ∨
      key.code = .enter ∧ s.app.settingsScreen.confirm = some .showSafetyNumber) ∧
      s.app.chatList.selectedContact.isSome ∧ s.app.ourIdentityKey.isSome := by
  have hstays {t : Sys ε} (ht : t.app.screen = s.app.screen)
      (h : t.app.screen = .safetyNumber) : False := by
    cases (hscreen.symm.trans ht.symm).trans h
  unfold handleSettings at h
  split at h
  · cases h
  · exact (hstays rfl h).elim
  · exact (hstays rfl h).elim
  · exact (hstays rfl h).elim
  · exact (hstays rfl h).elim
  · next hcode =>
    split at h
    · next action haction =>
      unfold settingsAction at h
      cases action with
      | back => cases h
      | logout => exact absurd h (screen_doLogout hscreen)
      | showSafetyNumber =>
        exact ⟨.inr (.inr ⟨hcode, haction⟩), screen_openSafetyNumberScreen hscreen h⟩
      | exportKeys => exact (hstays (screen_exportIdentityKey s) h).elim
      | showMyQr => cases h
    · exact (hstays rfl h).elim
  · exact absurd h (screen_doLogout hscreen)
  · exact absurd h (screen_doLogout hscreen)
  · cases h
  · cases h
  · next hcode => exact ⟨.inl hcode, screen_openSafetyNumberScreen hscreen h⟩
  · next hcode => exact ⟨.inr (.inl hcode), screen_openSafetyNumberScreen hscreen h⟩
  · exact (hstays rfl h).elim

/-- A key brings the safety number to the screen only from the settings. -/
theorem screen_handleEvent {s : Sys ε} {key : KeyEvent} (hrunning : s.app.running)
    (hhidden : s.app.screen ≠ .safetyNumber)
    (h : (handleEvent E ans key s).app.screen = .safetyNumber) :
    s.opensSafetyNumber (.key key ans) := by
  have hacts {t : Sys ε} (ht : s.Acts E (.key key ans) t.account)
      (hs : s.app.screen.signedIn = false)
      (h : t.app.screen = .safetyNumber) : False := by
    have hsigned : t.account.screen.signedIn := by
      show t.app.screen.signedIn = true
      rw [h]
      rfl
    rcases ht.signedIn hsigned with hin | hmain
    · rw [hs] at hin
      cases hin
    · cases h.symm.trans hmain
  unfold handleEvent at h
  by_cases hpress : key.isPress = true
  · by_cases hctrl : key.code = .char 'c' ∧ key.modifiers = .control
    · simp only [hpress, hctrl] at h
      exact absurd h hhidden
    · have hctrl' : (key.code = .char 'c' && key.modifiers = .control) = false := by
        simpa using hctrl
      simp only [hpress, hctrl', Bool.not_true, Bool.false_eq_true, if_false] at h
      cases hscreen : s.app.screen with
      | startup | connecting | registering =>
        rw [hscreen] at h
        exact absurd h hhidden
      | authError msg =>
        rw [hscreen] at h
        dsimp only at h
        split at h <;> cases h
      | unlock =>
        rw [hscreen] at h
        exact (hacts (Sys.acts_handleUnlock hscreen key) (by rw [hscreen]; rfl) h).elim
      | setPassphrase =>
        rw [hscreen] at h
        exact (hacts (Sys.acts_handleSetPassphrase hscreen hpress) (by rw [hscreen]; rfl) h).elim
      | onboarding =>
        rw [hscreen] at h
        exact absurd h (entry_ne (screen_of_shows (shows_handleOnboarding hscreen key)))
      | deviceLink =>
        rw [hscreen] at h
        exact absurd h (entry_ne (screen_of_shows (shows_handleDeviceLink hscreen key)))
      | main =>
        rw [hscreen] at h
        exact absurd h (browsing_ne (screen_of_shows (browses_handleMain ans hscreen key)))
      | contactSearch =>
        rw [hscreen] at h
        exact absurd h
          (browsing_ne (screen_of_shows (browses_handleContactSearch E ans hscreen key)))
      | settings =>
        rw [hscreen] at h
        obtain ⟨hcode, hcontact, hkey⟩ := screen_handleSettings hscreen h
        simp only [Sys.opensSafetyNumber, hrunning, hpress, hctrl', hscreen, hcontact, hkey]
        simpa [or_assoc] using hcode
      | safetyNumber => exact absurd hscreen hhidden
      | identityQr =>
        rw [hscreen] at h
        cases h
  · simp only [hpress] at h
    exact absurd h hhidden

theorem screen_saveAndEnter (m : AuthSuccess) (session : Session) (s : Sys ε) :
    (saveAndEnter E ans m session s).app.screen ≠ .safetyNumber := by
  unfold saveAndEnter
  split
  · split <;> exact nofun
  · exact nofun

/-- No event brings the safety number to the screen. -/
theorem screen_handleInternal {s : Sys ε} (event : InternalEvent) (gone : Bool)
    (hhidden : s.app.screen ≠ .safetyNumber) :
    (handleInternal E ans event gone s).app.screen ≠ .safetyNumber := by
  cases event with
  | auth msg =>
    obtain ⟨t, -, heq⟩ := handleInternal_auth E ans msg gone s
    rw [heq]
    cases msg with
    | success m =>
      unfold handleAuthMsg
      dsimp only
      split
      · exact screen_saveAndEnter _ _ _
      · exact nofun
    | failure msg => exact entry_ne (screen_of_shows (shows_failure E ans msg t))
  | tokenRefresh msg =>
    have haccount {t : Sys ε} (ht : t.app.screen = s.app.screen) :
        t.app.screen ≠ .safetyNumber := ht ▸ hhidden
    cases msg with
    | refreshed accessToken refreshToken expiresAt =>
      unfold handleInternal handleTokenRefreshMsg
      dsimp only
      split
      · exact hhidden
      · exact haccount (congrArg Account.screen (account_persistSessionBackground ans _ _))
    | failedTransport e => exact hhidden
    | failedAuth e =>
      unfold handleInternal handleTokenRefreshMsg startDeviceReauth
      dsimp only
      split <;> exact hhidden
  | bridge event =>
    cases event with
    | streamStatus connected => cases connected <;> exact hhidden
    | _ => exact hhidden
  | inviteAccepted userId username =>
    have hscreen : (finishAddContact ans userId username s).app.screen = .main :=
      congrArg Account.screen (account_finishAddContact ans userId username s)
    show (finishAddContact ans userId username s).app.screen ≠ .safetyNumber
    rw [hscreen]
    exact nofun
  | tick =>
    unfold handleInternal
    dsimp only
    split <;> exact hhidden
  | streamAuthRequired =>
    unfold handleInternal refreshTokenNow
    dsimp only
    split <;> exact hhidden
  | p2pStatus peerId connected latencyMs isRelay =>
    cases connected <;> cases isRelay <;> exact hhidden
  | _ => exact hhidden

end App

namespace Sys

/-- **Only a key asks for a safety number**, and only when there is a contact and a key of ours. -/
theorem opens_of_shown {s s' : Sys ε} {a : Label ε} (hhidden : s.app.screen ≠ .safetyNumber)
    (h : step E s a = some s') (hshown : s'.app.screen = .safetyNumber) :
    s.opensSafetyNumber a := by
  have happ (happ : s'.app = s.app) : s.opensSafetyNumber a :=
    absurd ((congrArg App.screen happ).symm.trans hshown) hhidden
  cases stepped h with
  | key hrunning => exact App.screen_handleEvent hrunning hhidden hshown
  | @internal ans q queue =>
    have hne : (App.handleInternal E ans q.event q.gone { s with queue := queue }).app.screen ≠
        .safetyNumber := App.screen_handleInternal q.event q.gone hhidden
    exact absurd hshown hne
  | @startup ans =>
    have hne : (App.startupCheck ans s).app.screen ≠ .safetyNumber := by
      unfold App.startupCheck
      dsimp only
      split <;> simp [App.startAuthRestoreFromDisk, Sys.setScreen, Sys.spawn, Sys.modApp]
    exact absurd hshown hne
  | tick | registrationStep | request | finish | worker | relay | take | orchestrator | subTask =>
    exact happ (app_of_beside rfl h)

/-! ### What the number is made of -/

theorem handleEvent_opens {s : Sys ε} {key : KeyEvent}
    (h : s.opensSafetyNumber (.key key ans)) :
    s.app.running ∧ App.handleEvent E ans key s = App.openSafetyNumberScreen E ans s := by
  simp only [opensSafetyNumber, Bool.and_eq_true, Bool.or_eq_true, decide_eq_true_eq,
    Bool.not_eq_true'] at h
  obtain ⟨⟨⟨⟨⟨⟨hrunning, hpress⟩, hctrl⟩, hscreen⟩, hcode⟩, -⟩, -⟩ := h
  refine ⟨hrunning, ?_⟩
  have hsettings : App.handleEvent E ans key s = App.handleSettings E ans key s := by
    unfold App.handleEvent
    simp only [hpress, hctrl, hscreen]
    rfl
  rw [hsettings]
  unfold App.handleSettings
  rcases hcode with (hcode | hcode) | ⟨hcode, hconfirm⟩
  · rw [hcode]
    rfl
  · rw [hcode]
    rfl
  · rw [hcode]
    dsimp only
    rw [hconfirm]
    rfl

/-- The key that the screen has for the contact. -/
def theirKeyOn (E : AppExternals ε) (ans : Answers ε) (id : String) (s : Sys ε) : Bytes :=
  ((if s.app.readStorage && !ans.sqlFails .getContactById then s.knownKey E id else none).map
    vecToKey32).getD (List.replicate 32 0)

theorem openSafetyNumberScreen_eq {s : Sys ε} {c : Contact} {key : Bytes}
    (hcontact : s.app.chatList.selectedContact = some c) (hkey : s.app.ourIdentityKey = some key) :
    App.openSafetyNumberScreen E ans s = s.modApp fun a => { a with
      safetyNumber := some ⟨c.displayName, vecToKey32 key, theirKeyOn E ans c.id s⟩
      screen := .safetyNumber } := by
  unfold App.openSafetyNumberScreen theirKeyOn knownKey
  rw [hcontact, hkey]
  dsimp only
  split <;> rfl

/-- Who asks for a number is shown one. -/
theorem shown_of_opens {s : Sys ε} {a : Label ε} (h : s.opensSafetyNumber a) :
    ∃ id key p, s.ShowsNumber E a id key p := by
  cases a with
  | key key ans =>
    obtain ⟨hrunning, heq⟩ := handleEvent_opens (E := E) h
    simp only [opensSafetyNumber, Bool.and_eq_true, decide_eq_true_eq] at h
    obtain ⟨⟨⟨⟨-, hscreen⟩, -⟩, hcontact⟩, hours⟩ := h
    obtain ⟨c, hcontact⟩ := Option.isSome_iff_exists.mp hcontact
    obtain ⟨ours, hours⟩ := Option.isSome_iff_exists.mp hours
    rw [openSafetyNumberScreen_eq hcontact hours] at heq
    have hstep : step E s (.key key ans) = _ := (if_pos hrunning).trans (congrArg some heq)
    refine ⟨c.id, ours, ⟨c.displayName, vecToKey32 ours, theirKeyOn E ans c.id s⟩, ?_, ?_, hours, _,
      hstep, rfl, rfl⟩
    · rw [hscreen]
      exact nofun
    · rw [hcontact]
      rfl
  | _ => cases h

/-- The keys of a number on screen. -/
theorem ShowsNumber.keys {s : Sys ε} {a : Label ε} {id : String} {key : Bytes}
    {p : SafetyNumberScreen} (h : s.ShowsNumber E a id key p) : ∃ k ans, a = .key k ans ∧
      p.ourKey = vecToKey32 key ∧ p.theirKey = theirKeyOn E ans id s := by
  obtain ⟨s', hstep, hscreen, hp⟩ := h.shown
  have hopens := opens_of_shown h.hidden hstep hscreen
  cases a with
  | key k ans =>
    obtain ⟨hrunning, heq⟩ := handleEvent_opens (E := E) hopens
    obtain ⟨c, hcontact, rfl⟩ := Option.map_eq_some_iff.mp h.contact
    rw [openSafetyNumberScreen_eq hcontact h.ours] at heq
    rw [step, if_pos hrunning, heq] at hstep
    cases Option.some.inj hstep
    cases Option.some.inj hp
    exact ⟨k, ans, rfl, rfl, rfl⟩
  | _ => cases hopens

section Number

variable (sha512 : Bytes → {digest : Bytes // digest.length = 64})

/-- **A client that has the contact's key shows the number of both keys.** -/
theorem ShowsNumber.of_known {s : Sys ε} {k : KeyEvent} {id : String} {key theirKey : Bytes}
    {p : SafetyNumberScreen} (h : s.ShowsNumber E (.key k ans) id key p) (hkey : key.length = 32)
    (hknown : s.knownKey E id = some theirKey) (htheirs : theirKey.length = 32)
    (hread : s.app.readStorage) (hsql : ans.sqlFails .getContactById = false) :
    p.number sha512 = computeSafetyNumber sha512 key theirKey := by
  obtain ⟨k', ans', ha, hours, htheir⟩ := h.keys
  cases ha
  have htheir' : p.theirKey = theirKey := by
    rw [htheir, theirKeyOn, hread, hsql, hknown]
    exact vecToKey32_of_length htheirs
  rw [SafetyNumberScreen.number, hours, htheir', vecToKey32_of_length hkey]

/-- Without a key, the number is that of zeros. -/
theorem ShowsNumber.of_unknown {s : Sys ε} {a : Label ε} {id : String} {key : Bytes}
    {p : SafetyNumberScreen} (h : s.ShowsNumber E a id key p) (hknown : s.knownKey E id = none) :
    p.number sha512 = computeSafetyNumber sha512 (vecToKey32 key) (List.replicate 32 0) := by
  obtain ⟨k, ans, -, hours, htheir⟩ := h.keys
  have htheir' : p.theirKey = List.replicate 32 0 := by
    rw [htheir, theirKeyOn, hknown]
    split <;> rfl
  rw [SafetyNumberScreen.number, hours, htheir']

end Number

/-- No contact is known by its key. -/
theorem knownKey_of_keyless {s : Sys ε} (h : s.db.Keyless) (id : String) :
    s.knownKey E id = none := by
  have hnone : ((s.db.getContactById id).filter fun c => c.identityKeyB64 ≠ "") = none := by
    rw [Option.filter_eq_none_iff]
    intro c hc
    have hmem : c ∈ s.db.contacts.rows := (Table.find?_eq_some_iff.mp hc).1
    simp [h c hmem]
  rw [knownKey, hnone]
  rfl

/-! ### Two users -/

/-- Some step of a run brings a number to the screen; `t` is the state before it. -/
def ShownIn (E : AppExternals ε) (s : Sys ε) (as : List (Label ε)) (t : Sys ε) (id : String)
    (key : Bytes) (p : SafetyNumberScreen) : Prop :=
  ∃ bs a cs, as = bs ++ a :: cs ∧ Run.after (step E) s bs = some t ∧ t.ShowsNumber E a id key p

/-- What two users are shown is meaningful: each number is for a contact whose key is known, and who
look at each other see the number of their two keys. -/
structure Meaningful (sha512 : Bytes → {digest : Bytes // digest.length = 64})
    (E E' : AppExternals ε) (s s' : Sys ε) (as as' : List (Label ε)) : Prop where
  known : ∀ t id key p, ShownIn E s as t id key p → (t.knownKey E id).isSome
  known' : ∀ t id key p, ShownIn E' s' as' t id key p → (t.knownKey E' id).isSome
  agree : ∀ t t' key key' p p', ShownIn E s as t t'.app.userId key p →
    ShownIn E' s' as' t' t.app.userId key' p' → key.length = 32 → key'.length = 32 → key ≠ key' →
      p.number sha512 = computeSafetyNumber sha512 key key' ∧
        p'.number sha512 = computeSafetyNumber sha512 key key'

/-- No key asks for a safety number. -/
def NeverOpens (E : AppExternals ε) (s : Sys ε) (as : List (Label ε)) : Prop :=
  Run.Along (step E) (fun t a => t.opensSafetyNumber a = false) s as

instance (E : AppExternals ε) (s : Sys ε) (as : List (Label ε)) : Decidable (NeverOpens E s as) :=
  inferInstanceAs (Decidable (Run.Along _ _ _ _))

theorem NeverOpens.not_shown {s : Sys ε} {as : List (Label ε)} (h : NeverOpens E s as) {t : Sys ε}
    {id : String} {key : Bytes} {p : SafetyNumberScreen} : ¬ShownIn E s as t id key p := by
  rintro ⟨bs, a, cs, rfl, ht, hshows⟩
  obtain ⟨s', hstep, hscreen, -⟩ := hshows.shown
  have hopens := opens_of_shown hshows.hidden hstep hscreen
  rw [h.at ht] at hopens
  cases hopens

/-- A user is shown numbers of unknown keys only. -/
theorem neverOpens_of_known {cfg : AppConfig} {dir : ConfigDir} {db : Storage}
    {as : List (Label ε)} (hdb : Written E db) (h : ∀ t id key p,
      ShownIn E (start ε cfg dir db) as t id key p → (t.knownKey E id).isSome) :
    NeverOpens E (start ε cfg dir db) as := by
  refine Run.along_iff_forall.mpr fun bs a cs t has ht => ?_
  by_contra hopens
  obtain ⟨id, key, p, hshows⟩ := shown_of_opens (E := E) (Bool.not_eq_false _ ▸ hopens)
  have hknown := h t id key p ⟨bs, a, cs, has, ht, hshows⟩
  have hkeyless := keyless_after ⟨programs_start _ cfg dir db, hdb.keyless⟩ ht
  rw [knownKey_of_keyless hkeyless.2] at hknown
  cases hknown

/-- **The numbers that two users are shown are meaningful exactly as long as neither asks for
one.** -/
theorem meaningful_iff (sha512 : Bytes → {digest : Bytes // digest.length = 64})
    {E E' : AppExternals ε} {cfg cfg' : AppConfig} {dir dir' : ConfigDir} {db db' : Storage}
    (hdb : Written E db) (hdb' : Written E' db') (as as' : List (Label ε)) :
    Meaningful sha512 E E' (start ε cfg dir db) (start ε cfg' dir' db') as as' ↔
      NeverOpens E (start ε cfg dir db) as ∧ NeverOpens E' (start ε cfg' dir' db') as' := by
  constructor
  · intro h
    exact ⟨neverOpens_of_known hdb h.known, neverOpens_of_known hdb' h.known'⟩
  · rintro ⟨h, h'⟩
    exact ⟨fun t id key p hshown => absurd hshown h.not_shown,
      fun t id key p hshown => absurd hshown h'.not_shown,
      fun t t' key key' p p' hshown => absurd hshown h.not_shown⟩

/-- A client whose identity key is made of one byte. -/
def keyed (b : UInt8) : AppExternals Unit :=
  { AppExternals.quiet with identityPublicKey := fun _ => some (List.replicate 32 b) }

/-- A user registers, finds the other one by a search, adds them and goes to the settings. -/
def befriends (userId peerId : String) : List (Label Unit) :=
  [.startup .quiet, .key (.plain .enter) .quiet, .request 0 .zeros .quiet,
    .finish 0 (.tokens userId "access1" "refresh1" 100) .quiet, .internal .quiet,
    presses 'n', presses 'a', presses 'b', presses 'c', .key (.plain .enter) .quiet,
    .request 1 .zeros .quiet, .finish 1 (.found (some peerId)) .quiet, .internal .quiet,
    .key (.plain .enter) .quiet, presses 's']

/-- Two users who have added each other leave the settings again without asking for a number. -/
theorem meaningful_unasked :
    (Run.after (step (keyed 1)) fresh (befriends "alice" "bob" ++ [.key (.plain .esc) .quiet])).map
      (fun s => (s.app.screen, s.db.contacts.rows.map StoredContact.userId)) =
        some (.main, ["bob"]) ∧
    (Run.after (step (keyed 2)) fresh (befriends "bob" "alice" ++ [.key (.plain .esc) .quiet])).map
      (fun s => (s.app.screen, s.db.contacts.rows.map StoredContact.userId)) =
        some (.main, ["alice"]) ∧
    Meaningful (fun _ => ⟨List.replicate 64 0, rfl⟩) (keyed 1) (keyed 2) fresh fresh
      (befriends "alice" "bob" ++ [.key (.plain .esc) .quiet])
      (befriends "bob" "alice" ++ [.key (.plain .esc) .quiet]) :=
  ⟨by decide +kernel, by decide +kernel,
    (meaningful_iff _ .init .init _ _).mpr ⟨by decide +kernel, by decide +kernel⟩⟩

/-! ### Two numbers that differ -/

/-- A user who has added the other one asks for the safety number. -/
def compares (userId peerId : String) : List (Label Unit) :=
  befriends userId peerId ++ [presses 's']

/-- The client just before the number comes to the screen. -/
def comparing (b : UInt8) (userId peerId : String) : Sys Unit :=
  Run.ending (step (keyed b)) fresh (befriends userId peerId)

/-- What SHA-512 makes of the keys of the two users, each with zeros in the other's place. -/
def digests (input : Bytes) : {digest : Bytes // digest.length = 64} :=
  if 1 ∈ input.drop 27 then ⟨
    [125, 151, 136, 223, 34, 89, 52, 229, 97, 121, 105, 19, 82, 48, 84, 53, 216, 160, 3, 35, 104,
      152, 235, 173, 68, 204, 93, 94, 154, 149, 36, 66, 149, 17, 110, 208, 132, 227, 209, 209, 32,
      130, 29, 109, 201, 225, 6, 229, 23, 40, 179, 44, 186, 136, 231, 151, 183, 6, 101, 221, 0,
      146, 227, 148], rfl⟩
  else ⟨
    [235, 189, 166, 10, 206, 202, 101, 222, 172, 32, 84, 121, 17, 210, 193, 31, 205, 190, 49, 208,
      201, 100, 140, 239, 45, 77, 102, 145, 212, 234, 99, 23, 115, 49, 34, 13, 77, 192, 221, 26,
      58, 159, 77, 171, 119, 158, 22, 6, 22, 167, 56, 36, 162, 250, 175, 35, 149, 15, 233, 196,
      224, 38, 137, 122], rfl⟩

/-- What a user is shown who compares the number with that of a contact. -/
theorem shownIn_comparing {b : UInt8} {userId peerId : String}
    (hrun : (Run.after (step (keyed b)) fresh (compares userId peerId)).isSome)
    (hscreen : (comparing b userId peerId).app.screen = .settings)
    (hcontact : (comparing b userId peerId).app.chatList.selectedContact.map Contact.id =
      some peerId)
    (hkey : (comparing b userId peerId).app.ourIdentityKey = some (List.replicate 32 b))
    {p : SafetyNumberScreen} (hshown :
      (Run.ending (step (keyed b)) fresh (compares userId peerId)).app.screen = .safetyNumber ∧
      (Run.ending (step (keyed b)) fresh (compares userId peerId)).app.safetyNumber = some p) :
    ShownIn (keyed b) fresh (compares userId peerId) (comparing b userId peerId) peerId
      (List.replicate 32 b) p := by
  have hbefore : (Run.after (step (keyed b)) fresh (befriends userId peerId)).isSome := by
    obtain ⟨t, ht⟩ := Option.isSome_iff_exists.mp hrun
    rw [compares, Run.after_append] at ht
    obtain ⟨u, hu, -⟩ := Option.bind_eq_some_iff.mp ht
    rw [hu]
    rfl
  have hstep : step (keyed b) (comparing b userId peerId) (presses 's') =
      some (Run.ending (step (keyed b)) fresh (compares userId peerId)) := Run.step_ending hrun
  refine ⟨_, _, [], rfl, Run.after_ending_nil hbefore, ?_, hcontact, hkey, _, hstep, hshown⟩
  rw [hscreen]
  exact nofun

/-- Two users who have added each other compare their numbers, and see different ones: each client
put zeros in the place of the other's key. -/
theorem not_meaningful_friends : (∃ t t' p p',
    ShownIn (keyed 1) fresh (compares "alice" "bob") t t'.app.userId (List.replicate 32 1) p ∧
      ShownIn (keyed 2) fresh (compares "bob" "alice") t' t.app.userId (List.replicate 32 2) p' ∧
      t.knownKey (keyed 1) t'.app.userId = none ∧ t'.knownKey (keyed 2) t.app.userId = none ∧
      p.number digests ≠ p'.number digests) ∧
    ¬Meaningful digests (keyed 1) (keyed 2) fresh fresh (compares "alice" "bob")
      (compares "bob" "alice") := by
  have halice : (comparing 1 "alice" "bob").app.userId = "alice" := by decide +kernel
  have hbob : (comparing 2 "bob" "alice").app.userId = "bob" := by decide +kernel
  have hshown : ShownIn (keyed 1) fresh (compares "alice" "bob") (comparing 1 "alice" "bob")
      (comparing 2 "bob" "alice").app.userId (List.replicate 32 1)
      ⟨"abc", List.replicate 32 1, List.replicate 32 0⟩ :=
    hbob ▸ shownIn_comparing (by decide +kernel) (by decide +kernel) (by decide +kernel)
      (by decide +kernel) (by decide +kernel)
  have hshown' : ShownIn (keyed 2) fresh (compares "bob" "alice") (comparing 2 "bob" "alice")
      (comparing 1 "alice" "bob").app.userId (List.replicate 32 2)
      ⟨"abc", List.replicate 32 2, List.replicate 32 0⟩ :=
    halice ▸ shownIn_comparing (by decide +kernel) (by decide +kernel) (by decide +kernel)
      (by decide +kernel) (by decide +kernel)
  have hne :
      (⟨"abc", List.replicate 32 1, List.replicate 32 0⟩ : SafetyNumberScreen).number digests ≠
      (⟨"abc", List.replicate 32 2, List.replicate 32 0⟩ : SafetyNumberScreen).number digests := by
    decide +kernel
  refine ⟨⟨_, _, _, _, hshown, hshown', by decide +kernel, by decide +kernel, hne⟩, fun h => ?_⟩
  obtain ⟨hnumber, hnumber'⟩ := h.agree _ _ _ _ _ _ hshown hshown' rfl rfl (by decide)
  exact hne (hnumber.trans hnumber'.symm)

end Sys

import ConstructTui.App.Refresh
import ConstructTui.App.Vault

/-!
# The identity behind the tokens

A device gets its keys once, when it registers or is linked; from then on only its tokens change. A
refresh, an authentication with the device key and a restore of the session file each build a
session from an old one and an answer of the server, which may name any user. Wherever a session is
kept, it is the same device's.

## Main definitions

* `Session.SameDevice`: two sessions that differ at most in their tokens.
* `Account.Only`: every session that is kept, in memory, under way or on disk, has a property.
* `Sys.enrolls`: the steps that bring the session of another device.
* `Sys.KeepsPresented`: a refresh without a new refresh token goes on with the old one.

## Main results

* `Sys.only_step`: whatever does not depend on the tokens is kept by every other step.
* `Sys.identity_kept`: through any run and any restarts, every session is the same device's.
-/

/-- The keys, the device and the user agree. -/
structure Session.SameDevice (x session : Session) : Prop where
  signingKeyHex : x.signingKeyHex = session.signingKeyHex
  identityKeyHex : x.identityKeyHex = session.identityKeyHex
  spkKeyHex : x.spkKeyHex = session.spkKeyHex
  spkSigHex : x.spkSigHex = session.spkSigHex
  deviceId : x.deviceId = session.deviceId
  userId : x.userId = session.userId

/-- Other tokens do not matter. -/
def Session.TokenFree (P : Session → Prop) : Prop :=
  ∀ x accessToken refreshToken expiresAt, P x → P (x.withTokens accessToken refreshToken expiresAt)

theorem Session.SameDevice.refl (session : Session) : session.SameDevice session :=
  ⟨rfl, rfl, rfl, rfl, rfl, rfl⟩

theorem Session.tokenFree_sameDevice (session : Session) : TokenFree (SameDevice · session) :=
  fun _ _ _ _ h =>
    ⟨h.signingKeyHex, h.identityKeyHex, h.spkKeyHex, h.spkSigHex, h.deviceId, h.userId⟩

/-- Sessions of the same device differ in their tokens alone. -/
theorem Session.sameDevice_iff {x session : Session} : x.SameDevice session ↔
    x = session.withTokens x.accessToken x.refreshToken x.expiresAt := by
  obtain ⟨signing, identity, device, user, access, refresh, expires, spk, sig⟩ := x
  constructor
  · rintro ⟨rfl, rfl, rfl, rfl, rfl, rfl⟩
    rfl
  · intro h
    rw [h]
    exact tokenFree_sameDevice session _ _ _ _ (.refl session)

/-! ### The sessions that are kept -/

/-- The session in a file, sealed or in clear. -/
def SessionFile.session : SessionFile → Option Session
  | .encrypted _ content => content.map Prod.snd
  | .plaintext session => some session
  | .garbage => none

/-- The sessions that a task works on. The keys of a registration become a session only with its
answer. -/
def Running.sessions (r : Running) : List Session :=
  match r.task with
  | .authenticate session _ => session :: r.session.toList
  | .restoreFromDisk => r.session.toList
  | _ => []

/-- The sessions that an event brings. -/
def InternalEvent.sessions : InternalEvent → List Session
  | .auth (.success m) => m.fullSession :: m.pendingSave.toList
  | _ => []

/-- Every session on disk has the property. -/
structure ConfigDir.Only (P : Session → Prop) (d : ConfigDir) : Prop where
  enc : ∀ file ∈ d.enc, ∀ x ∈ file.session, P x
  legacy : ∀ file ∈ d.legacy, ∀ x ∈ file.session, P x

/-- Every session that is kept has the property: in memory, in a task, in an event that waits, or on
disk. -/
structure Account.Only (P : Session → Prop) (A : Account) : Prop where
  current : ∀ x ∈ A.currentSession, P x
  pending : ∀ x ∈ A.pendingSession, P x
  disk : A.dir.Only P
  tasks : ∀ r ∈ A.tasks, ∀ x ∈ r.sessions, P x
  events : ∀ e ∈ A.events, ∀ x ∈ e.sessions, P x

/-- The tasks whose answer brings the session of a new device. -/
def BackgroundTask.enrolls : BackgroundTask → Bool
  | .register _ | .link _ => true
  | _ => false

/-- The step brings the session of a device that has just been registered or linked. -/
def Sys.enrolls {ε : Type} (s : Sys ε) : Label ε → Bool
  | .finish k (.tokens _ _ _ _) _ => (s.tasks[k]?).any fun r => r.task.enrolls
  | _ => false

variable {P : Session → Prop}

namespace ConfigDir.Only

variable {d : ConfigDir}

theorem sessionPath (h : d.Only P) : d.sessionPath.Only P := by
  unfold ConfigDir.sessionPath
  split
  · exact ⟨h.legacy, nofun⟩
  · exact h

/-- Another session file. -/
theorem withEnc (h : d.Only P) {file : Option SessionFile}
    (hfile : ∀ f ∈ file, ∀ x ∈ f.session, P x) (writes : ℕ) :
    ConfigDir.Only P ⟨file, d.legacy, writes⟩ := ⟨hfile, h.legacy⟩

theorem saveFile (h : d.Only P) {file : SessionFile} (hfile : ∀ x ∈ file.session, P x)
    (outcome : SaveOutcome) : (d.saveFile file outcome).2.Only P := by
  have hfile' : ∀ f ∈ some file, ∀ x ∈ f.session, P x := by
    rintro _ ⟨⟩
    exact hfile
  have hgarbage : ∀ f ∈ some SessionFile.garbage, ∀ x ∈ f.session, P x := by
    rintro _ ⟨⟩
    exact nofun
  cases outcome with
  | saved => exact h.sessionPath.withEnc hfile' _
  | notWritten e => exact h.sessionPath
  | halfWritten e => exact h.sessionPath.withEnc hgarbage _
  | permissionsFailed e => exact h.sessionPath.withEnc hfile' _

theorem saveSession (h : d.Only P) {x : Session} (hx : P x) (key : Option SessionKey)
    (outcome : SaveOutcome) : (d.saveFile (ConfigDir.sessionFile x key) outcome).2.Only P := by
  refine h.saveFile ?_ outcome
  cases key <;> rintro _ ⟨⟩ <;> exact hx

theorem clearSession (h : d.Only P) (outcome : ClearOutcome) :
    (d.clearSession outcome).2.Only P := by
  unfold ConfigDir.clearSession
  dsimp only
  split
  · exact h.sessionPath
  · cases outcome with
    | cleared => exact ⟨nofun, h.sessionPath.legacy⟩
    | untouched e => exact h.sessionPath
    | overwritten e =>
      refine h.sessionPath.withEnc ?_ _
      rintro _ ⟨⟩
      exact nofun

theorem loadSession (h : d.Only P) {x : Session} (hx : d.loadSession = .ok (some x)) : P x := by
  unfold ConfigDir.loadSession at hx
  split at hx
  · cases hx
  · next session henc =>
    cases hx
    exact h.sessionPath.enc _ henc x rfl
  · cases hx

theorem loadSessionEncrypted (h : d.Only P) {sk : SessionKey} {x : Session}
    (hx : d.loadSessionEncrypted sk = .ok (some x)) : P x := by
  unfold ConfigDir.loadSessionEncrypted at hx
  split at hx
  · cases hx
  · next masterSalt key session henc =>
    split at hx
    · cases hx
      exact h.sessionPath.enc _ henc x rfl
    · cases hx
  · cases hx
  · cases hx

end ConfigDir.Only

/-! ### Tasks and events -/

/-- A task that carries no credentials works on no session. -/
theorem Running.sessions_plain {r : Running} (h : r.task.plain) : r.sessions = [] := by
  obtain ⟨task, requested, session⟩ := r
  cases task with
  | restoreFromDisk | authenticate session reauth => cases h
  | _ => rfl

theorem InternalEvent.sessions_of_bringsTokens {e : InternalEvent} (h : e.bringsTokens = false) :
    e.sessions = [] := by
  cases e with
  | auth msg =>
    cases msg with
    | success m => cases h
    | failure msg => rfl
  | _ => rfl

/-- What a change of one element leaves true of all. -/
theorem forall_mem_modify {α : Type*} {p : α → Prop} {f : α → α} {l : List α} {k : ℕ}
    (h : ∀ x ∈ l, p x) (hf : ∀ x, l[k]? = some x → p (f x)) : ∀ x ∈ l.modify k f, p x := by
  intro y hy
  obtain ⟨i, hi⟩ := List.mem_iff_getElem?.mp hy
  rw [List.getElem?_modify] at hi
  obtain ⟨x, hx, rfl⟩ := Option.map_eq_some_iff.mp hi
  by_cases hk : k = i
  · subst hk
    simpa using hf x hx
  · simpa [hk] using h x (List.mem_of_getElem? hx)

namespace Account.Only

variable {A B : Account}

theorem addTasks (h : A.Only P) {extra : List Running}
    (hextra : ∀ r ∈ extra, ∀ x ∈ r.sessions, P x) :
    ∀ r ∈ A.tasks ++ extra, ∀ x ∈ r.sessions, P x :=
  fun r hr => (List.mem_append.mp hr).elim (h.tasks r) (hextra r)

/-- Tasks that work on no session. -/
theorem addPlain (h : A.Only P) {extra : List Running} (hextra : ∀ r ∈ extra, r.task.plain) :
    ∀ r ∈ A.tasks ++ extra, ∀ x ∈ r.sessions, P x := by
  refine h.addTasks fun r hr => ?_
  rw [Running.sessions_plain (hextra r hr)]
  exact List.forall_mem_nil _

theorem rest (h : A.Only P) {e : InternalEvent} {events : List InternalEvent}
    (he : A.events = e :: events) : ∀ e ∈ events, ∀ x ∈ e.sessions, P x :=
  fun e' he' => h.events e' (he ▸ List.mem_cons_of_mem e he')

theorem quiet (h : A.Only P) (hB : A.Quiet B) : B.Only P := by
  obtain ⟨hcurrent, hpending, -⟩ := hB.creds
  refine ⟨hcurrent ▸ h.current, hpending ▸ h.pending, ?_, ?_, ?_⟩
  · obtain hdir | hdir := hB.dir <;> rw [hdir]
    · exact h.disk
    · exact h.disk.sessionPath
  · obtain ⟨extra, hextra, htasks⟩ := hB.tasks
    rw [htasks]
    exact h.addPlain hextra
  · obtain ⟨e, he, -⟩ | ⟨es, hes, he⟩ := hB.events
    · exact h.rest he
    · intro e' he'
      rw [he] at he'
      obtain he' | he' := List.mem_append.mp he'
      · exact h.events e' he'
      · rw [InternalEvent.sessions_of_bringsTokens (hes e' he')]
        exact List.forall_mem_nil _

end Account.Only

namespace Sys

variable {ε : Type} {E : AppExternals ε} {ans : Answers ε} {s : Sys ε}

open Session

/-! ### Inputs of the app -/

/-- The events that wait are left alone by an input. -/
theorem events_handle (E : AppExternals ε) (ans : Answers ε) (s : Sys ε) (input : Input) :
    (App.handle E ans s input).account.events = s.account.events := by
  cases App.handle_move E ans s input with
  | started _ h => exact congrArg (List.map Queued.event) h.queue
  | loggedOut _ h => exact congrArg (List.map Queued.event) h.queue
  | changed _ _ h =>
    obtain ⟨base, hrest, hbase⟩ := h.rest
    have hevents : (App.handle E ans s input).account.events = base.account.events :=
      congrArg (List.map Queued.event) hrest.queue
    obtain rfl | ⟨contact, rfl⟩ | ⟨peerId, -, rfl⟩ := hbase
    · exact hevents
    · exact hevents
    · have haccount := App.account_deleteRows ans peerId s.answered
      exact hevents.trans (congrArg Account.events haccount)

/-- What does not depend on the tokens is kept by every key, and by every event but a new
session. -/
theorem Acts.only (hP : TokenFree P) {a : Label ε} {B : Account} (h : s.Acts E a B)
    (ha : a.ofApp = true) (hevents : B.events.length ≤ s.account.events.length)
    (hnew : ∀ ans, a = .internal ans → ∀ m rest, s.account.events ≠ .auth (.success m) :: rest)
    (hs : s.account.Only P) : B.Only P := by
  have hsome {x : Session} (hx : P x) : ∀ y ∈ some x, P y := by
    rintro _ ⟨⟩
    exact hx
  have hnone (r : Running) (hr : r.sessions = []) : ∀ r' ∈ [r], ∀ x ∈ r'.sessions, P x := by
    rw [List.forall_mem_singleton, hr]
    exact List.forall_mem_nil _
  cases h with
  | quiet h => exact hs.quiet h
  | saved hhead | unsaved _ hhead | waits hhead => exact absurd hhead (hnew _ rfl _ _)
  | @refreshed _ accessToken refreshToken expiresAt _ session updated hhead hcurrent hupdated =>
    have hx : P updated :=
      hupdated ▸ hP session accessToken refreshToken expiresAt (hs.current _ hcurrent)
    refine ⟨hsome hx, hs.pending, ?_, hs.addTasks (hnone _ rfl), hs.rest hhead⟩
    show ConfigDir.Only P (if _ then _ else _)
    split
    · exact hs.disk.saveSession hx _ _
    · exact hs.disk
  | wakes hhead => exact ⟨hs.current, hs.pending, hs.disk, hs.addTasks (hnone _ rfl), hs.rest hhead⟩
  | reauthenticates hhead hcurrent =>
    refine ⟨hs.current, hs.pending, hs.disk, hs.addTasks ?_, hs.rest hhead⟩
    exact List.forall_mem_singleton.mpr (List.forall_mem_singleton.mpr (hs.current _ hcurrent))
  | invited hhead => exact ⟨hs.current, hs.pending, hs.disk, hs.tasks, hs.rest hhead⟩
  | unlocked _ _ _ hload =>
    refine ⟨hs.current, hs.pending, hs.disk.sessionPath, hs.addTasks ?_, hs.events⟩
    have hx := hs.disk.loadSessionEncrypted hload
    exact List.forall_mem_singleton.mpr (List.forall_mem_singleton.mpr hx)
  | sealed _ _ _ hpending _ _ hextra =>
    have hx := hs.pending _ hpending
    exact ⟨hs.current, nofun, hs.disk.saveSession hx _ _, hs.addPlain hextra, hs.events⟩
  | sealFailed _ _ _ hpending =>
    have hx := hs.pending _ hpending
    exact ⟨hs.current, hs.pending, hs.disk.saveSession hx _ _, hs.tasks, hs.events⟩
  | loggedOut => exact ⟨nofun, nofun, hs.disk.clearSession _, hs.tasks, hs.events⟩
  | stuck => exact ⟨hs.current, hs.pending, hs.disk.clearSession _, hs.tasks, hs.events⟩
  | requested => cases ha
  | @ended _ k r es hr h =>
    -- a task ends beside the app, and tells it of the end
    have hlength : (s.account.events ++ es).length ≤ s.account.events.length := hevents
    rw [List.length_append] at hlength
    obtain rfl : es = [] := List.length_eq_zero_iff.mp (by omega)
    rw [List.append_nil]
    exact { hs with tasks := fun r' hr' => hs.tasks r' (List.mem_of_mem_eraseIdx hr') }

/-- A session that has been signed in is adopted, and kept if it is new. -/
theorem only_success {m : AuthSuccess} (hm : P m.fullSession) (hsave : ∀ x ∈ m.pendingSave, P x)
    (hs : s.account.Only P) : (App.handleAuthMsg E ans (.success m) s).account.Only P := by
  have hcurrent : ∀ x ∈ some m.fullSession, P x := by
    rintro _ ⟨⟩
    exact hm
  have hadopted : (App.adoptSession m s).account.Only P := { hs with current := hcurrent }
  cases hpending : m.pendingSave with
  | none =>
    obtain ⟨extra, hextra, heq⟩ := App.account_startOrchestrator_main E ans m.fullSession m.userId
      m.deviceId (App.adoptSession m s)
    rw [handleAuthMsg_restored hpending]
    unfold App.enterMain
    rw [heq]
    exact { hadopted with tasks := hadopted.addPlain hextra }
  | some session =>
    have hx := hsave session hpending
    rw [handleAuthMsg_success hpending]
    have hspawned : (App.startTokenRefresh session (App.adoptSession m s)).account.Only P :=
      { hadopted with
        tasks := hadopted.addTasks (List.forall_mem_singleton.mpr (List.forall_mem_nil _)) }
    generalize App.startTokenRefresh session (App.adoptSession m s) = v at hspawned ⊢
    by_cases hkey : (v.app.sessionKey.isSome || v.app.noEncrypt) = true
    · have hdisk := hspawned.disk.saveSession hx v.app.sessionKey ans.save
      by_cases hsaved : ans.save = .saved
      · obtain ⟨extra, hextra, heq⟩ := App.account_saved E ans m session hkey hsaved
        rw [heq]
        exact { hspawned with disk := hdisk, tasks := hspawned.addPlain hextra }
      · obtain ⟨e, heq⟩ := App.account_unsaved E ans m session hkey hsaved
        rw [heq]
        exact { hspawned with disk := hdisk }
    · rw [App.account_waits E ans hkey]
      refine { hspawned with pending := ?_ }
      rintro _ ⟨⟩
      exact hx

/-! ### Tasks -/

/-- A task ends with an event. -/
theorem only_conclude (hs : s.account.Only P) (k : ℕ) {e : InternalEvent}
    (he : ∀ x ∈ e.sessions, P x) : (s.conclude k e).account.Only P where
  current := hs.current
  pending := hs.pending
  disk := hs.disk
  tasks r hr := hs.tasks r (List.mem_of_mem_eraseIdx hr)
  events e' he' := by
    have he'' : e' ∈ (s.queue ++ [(⟨e, false⟩ : Queued)]).map Queued.event := he'
    rw [List.map_append] at he''
    obtain he'' | he'' := List.mem_append.mp he''
    · exact hs.events e' he''
    · exact List.mem_singleton.mp he'' ▸ he

/-- A task sends its request. -/
theorem only_await (hs : s.account.Only P) {k : ℕ} {task : BackgroundTask} {old : Option Session}
    (hr : s.tasks[k]? = some ⟨task, false, old⟩) (session : Option Session)
    (hsessions : ∀ x ∈ (⟨task, true, session⟩ : Running).sessions, P x) :
    (s.await k session).account.Only P := by
  refine { hs with tasks := forall_mem_modify hs.tasks fun r hr' => ?_ }
  obtain rfl := Option.some.inj (hr.symm.trans hr')
  exact hsessions

theorem only_beginAuthenticate (hs : s.account.Only P) {k : ℕ} {task : BackgroundTask}
    {old : Option Session} (hr : s.tasks[k]? = some ⟨task, false, old⟩) {session : Session}
    (hsessions : ∀ x ∈ (⟨task, true, some session⟩ : Running).sessions, P x) (reauth : Bool) :
    (beginAuthenticate E k session reauth s).account.Only P := by
  unfold beginAuthenticate
  split
  · exact only_conclude hs k (List.forall_mem_nil _)
  · exact only_await (s := s.setDeviceId session.deviceId) hs hr _ hsessions

theorem only_beginRequest (hs : s.account.Only P) {k : ℕ} {task : BackgroundTask}
    {old : Option Session} (hr : s.tasks[k]? = some ⟨task, false, old⟩) (fresh : Session) :
    (beginRequest E k task fresh ans s).account.Only P := by
  have hkept := hs.tasks _ (List.mem_of_getElem? hr)
  cases task with
  | restoreFromDisk =>
    have hmoved : ({ s with dir := s.dir.sessionPath } : Sys ε).account.Only P :=
      { hs with disk := hs.disk.sessionPath }
    unfold beginRequest
    dsimp only
    split
    · exact only_conclude hmoved k (List.forall_mem_nil _)
    · exact only_conclude hmoved k (List.forall_mem_nil _)
    · next session hload =>
      have hx := hs.disk.loadSession (ConfigDir.loadSession_of_read hload)
      exact only_beginAuthenticate hmoved hr (List.forall_mem_singleton.mpr hx) false
  | authenticate session reauth =>
    have hx : P session := hkept session List.mem_cons_self
    exact only_beginAuthenticate hs hr
      (List.forall_mem_cons.mpr ⟨hx, List.forall_mem_singleton.mpr hx⟩) reauth
  | register username => exact only_await (s := s.setDeviceId _) hs hr _ (List.forall_mem_nil _)
  | link token => exact only_await (s := s.setDeviceId _) hs hr _ (List.forall_mem_nil _)
  | tokenRefresh deviceId _ _ | tokenRefreshNow deviceId _ | uploadPreKeys deviceId _ =>
    exact only_await (s := s.setDeviceId deviceId) hs hr _ (List.forall_mem_nil _)
  | search _ | redeem _ _ => exact only_await hs hr _ (List.forall_mem_nil _)

theorem only_finishRequest (hP : TokenFree P) (hs : s.account.Only P) {k : ℕ} {r : Running}
    (hr : s.tasks[k]? = some r) {result : TaskResult}
    (hno : s.enrolls (.finish k result ans) = false) :
    (finishRequest k r result ans s).account.Only P := by
  have hkept := hs.tasks r (List.mem_of_getElem? hr)
  have hends {e : InternalEvent} (he : e.sessions = []) : (s.conclude k e).account.Only P :=
    only_conclude hs k (he ▸ List.forall_mem_nil _)
  have herased : ({ s with tasks := s.tasks.eraseIdx k } : Sys ε).account.Only P :=
    { hs with tasks := fun r' hr' => hs.tasks r' (List.mem_of_mem_eraseIdx hr') }
  obtain ⟨task, requested, session⟩ := r
  cases task with
  | restoreFromDisk =>
    cases result with
    | tokens userId accessToken refreshToken expiresAt =>
      cases session with
      | none => exact hs
      | some session =>
        have hx := hP session accessToken refreshToken expiresAt (hkept session List.mem_cons_self)
        have hdisk := hs.disk.saveSession hx none ans.save
        unfold finishRequest
        dsimp only
        split
        · next e dir hdir =>
          have hdir' : dir = (s.dir.saveFile _ ans.save).2 := (congrArg Prod.snd hdir).symm
          exact only_conclude (s := { s with dir := dir }) { hs with disk := hdir' ▸ hdisk } k
            (List.forall_mem_nil _)
        · next dir hdir =>
          have hdir' : dir = (s.dir.saveFile _ ans.save).2 := (congrArg Prod.snd hdir).symm
          exact only_conclude (s := { s with dir := dir }) { hs with disk := hdir' ▸ hdisk } k
            (List.forall_mem_singleton.mpr hx)
    | failed e | rejected e => exact hends rfl
    | _ => exact hs
  | authenticate saved reauth =>
    cases result with
    | tokens userId accessToken refreshToken expiresAt =>
      cases session with
      | none => exact hs
      | some session =>
        have hx := hP session accessToken refreshToken expiresAt
          (hkept session (List.mem_cons_of_mem _ List.mem_cons_self))
        exact only_conclude hs k (List.forall_mem_cons.mpr ⟨hx, List.forall_mem_singleton.mpr hx⟩)
    | failed e | rejected e => exact hends rfl
    | _ => exact hs
  | register _ | link _ =>
    cases result with
    | tokens userId accessToken refreshToken expiresAt =>
      have hno' : (s.tasks[k]?).any (fun r => r.task.enrolls) = false := hno
      rw [hr] at hno'
      cases hno'
    | failed e | rejected e => exact hends rfl
    | _ => exact hs
  | tokenRefresh _ _ _ | tokenRefreshNow _ _ => cases result <;> exact hends rfl
  | uploadPreKeys _ _ => cases result <;> exact herased
  | search _ =>
    cases result with
    | found userId => cases userId <;> exact hends rfl
    | failed e | rejected e => exact hends rfl
    | _ => exact hs
  | redeem _ _ => cases result <;> first | exact hends rfl | exact hs

/-! ### Runs -/

theorem only_startupCheck (hs : s.account.Only P) : (App.startupCheck ans s).account.Only P := by
  have hmoved : ({ s with dir := s.dir.sessionPath } : Sys ε).account.Only P :=
    { hs with disk := hs.disk.sessionPath }
  unfold App.startupCheck
  dsimp only
  split
  · exact { hmoved with }
  · exact { hmoved with
      tasks := hmoved.addTasks (List.forall_mem_singleton.mpr (List.forall_mem_nil _)) }
  · exact { hmoved with }

/-- What does not depend on the tokens is kept of every session, unless the step brings the session
of another device. -/
theorem only_step (hP : TokenFree P) {s' : Sys ε} {a : Label ε} (hs : s.account.Only P)
    (hno : s.enrolls a = false) (h : step E s a = some s') : s'.account.Only P := by
  cases stepped h with
  | startup => exact only_startupCheck hs
  | @key key ans =>
    have hevents := events_handle E ans s (.key key)
    exact (acts_handleEvent s key).only hP rfl (congrArg List.length hevents).le nofun hs
  | @internal ans q queue _ hqueue =>
    have hhead : s.account.events = q.event :: queue.map Queued.event :=
      congrArg (List.map Queued.event) hqueue
    have hpopped : ({ s with queue := queue } : Sys ε).account.Only P :=
      { hs with events := hs.rest hhead }
    obtain ⟨event, gone⟩ := q
    by_cases hnew : ∃ m, event = .auth (.success m)
    · obtain ⟨m, rfl⟩ := hnew
      have hm := hs.events (.auth (.success m)) (hhead ▸ List.mem_cons_self)
      obtain ⟨v, hv, heq⟩ := App.handleInternal_auth E ans (.success m) gone
        { s with queue := queue }
      rw [heq]
      exact only_success (hm _ List.mem_cons_self)
        (fun x hx => hm x (List.mem_cons_of_mem _ (Option.mem_toList.mpr hx)))
        (hv.account ▸ hpopped)
    · have hacts : s.Acts E (.internal ans)
          (App.handleInternal E ans event gone { s with queue := queue }).account :=
        acts_handleInternal hqueue fun m hm => absurd ⟨m, hm⟩ hnew
      have hevents := events_handle E ans { s with queue := queue } (.event event gone)
      refine hacts.only hP rfl ?_ (fun _ _ m rest hm => hnew ⟨m, ?_⟩) hs
      · rw [hhead]
        exact (congrArg List.length hevents).trans_le (Nat.le_succ _)
      · exact (List.cons.inj (hhead.symm.trans hm)).1
  | request hr => exact only_beginRequest hs hr _
  | finish hr => exact only_finishRequest hP hs hr hno
  | _ => exact hs.quiet (quiet_step h rfl rfl)

/-! ### Refreshes -/

/-- A refresh whose answer carries no refresh token goes on with the one it presented: the app is
told of that one, and the session takes it over with the new access token and its expiry, in memory
and in the session file. -/
structure KeepsPresented (E : AppExternals ε) (s : Sys ε) : Prop where
  answered : ∀ {k : ℕ} {r : Running} {presented userId accessToken : String} {expiresAt : ℤ}
    {ans : Answers ε} {s' : Sys ε}, s.tasks[k]? = some r → r.task.refreshToken = some presented →
    step E s (.finish k (.tokens userId accessToken "" expiresAt) ans) = some s' →
    s'.queue = s.queue ++ [⟨.tokenRefresh (.refreshed accessToken presented expiresAt), false⟩]
  taken : ∀ {accessToken refreshToken : String} {expiresAt : ℤ} {gone : Bool} {queue : List Queued}
    {session : Session} {ans : Answers ε} {s' : Sys ε},
    s.queue = ⟨.tokenRefresh (.refreshed accessToken refreshToken expiresAt), gone⟩ :: queue →
    s.app.currentSession = some session → step E s (.internal ans) = some s' →
    ∃ updated : Session, s'.app.currentSession = some updated ∧
      updated = session.withTokens accessToken refreshToken expiresAt ∧
      updated.accessToken = accessToken ∧ updated.refreshToken = refreshToken ∧
      updated.expiresAt = expiresAt ∧
      s'.dir = if s.app.sessionKey.isSome || s.app.noEncrypt
        then (s.dir.saveFile (ConfigDir.sessionFile updated s.app.sessionKey) ans.save).2
        else s.dir

variable (E s) in
theorem keepsPresented : s.KeepsPresented E where
  answered {k r presented userId accessToken expiresAt ans s'} hr hpresented h := by
    cases stepped h with
    | @finish _ _ _ task session hr' =>
      obtain rfl := Option.some.inj (hr'.symm.trans hr)
      cases task with
      | tokenRefresh deviceId refreshToken expiresAt =>
        cases hpresented
        rfl
      | tokenRefreshNow deviceId refreshToken =>
        cases hpresented
        rfl
      | _ => cases hpresented
  taken {accessToken refreshToken expiresAt gone queue session ans s'} hqueue hcurrent h := by
    cases stepped h with
    | @internal _ q queue' _ hqueue' =>
      obtain ⟨rfl, rfl⟩ := List.cons.inj (hqueue'.symm.trans hqueue)
      let t : Sys ε := { s.modApp (fun a => { a with accessToken := accessToken }) with
        grpc := { s.grpc with token := some accessToken }, queue := queue' }
      have hpersist : App.handleInternal E ans (.tokenRefresh (.refreshed accessToken refreshToken
          expiresAt)) gone { s with queue := queue' } = App.persistSessionBackground ans
            (session.withTokens accessToken refreshToken expiresAt) t := by
        show App.handleTokenRefreshMsg ans (.refreshed accessToken refreshToken expiresAt)
          { s with queue := queue' } = _
        unfold App.handleTokenRefreshMsg
        dsimp only [modApp]
        rw [hcurrent]
        rfl
      have haccount := App.account_persistSessionBackground ans
        (session.withTokens accessToken refreshToken expiresAt) t
      rw [← hpersist] at haccount
      exact ⟨_, congrArg Account.currentSession haccount, rfl, rfl, rfl, rfl,
        congrArg Account.dir haccount⟩

/-! ### Restarts -/

/-- A step of the client, or a new start on the files that are there. -/
def stepOrRestart (E : AppExternals ε) (s : Sys ε) : VaultLabel ε → Option (Sys ε)
  | .act a => step E s a
  | .restart cfg => some (start ε cfg s.dir s.db)

/-- No other device is registered or linked. -/
def keepsDevice (s : Sys ε) : VaultLabel ε → Bool
  | .act a => !s.enrolls a
  | .restart _ => true

/-- A client that has just been started has only the sessions on disk. -/
theorem only_start {dir : ConfigDir} (h : dir.Only P) (cfg : AppConfig) (db : Storage) :
    (start ε cfg dir db).account.Only P :=
  ⟨nofun, nofun, h, List.forall_mem_nil _, List.forall_mem_nil _⟩

theorem only_stepOrRestart (hP : TokenFree P) {s' : Sys ε} {l : VaultLabel ε}
    (hs : s.account.Only P) (hguard : s.keepsDevice l) (h : stepOrRestart E s l = some s') :
    s'.account.Only P := by
  cases l with
  | act a => exact only_step hP hs (by simpa [keepsDevice] using hguard) h
  | restart cfg =>
    obtain rfl := Option.some.inj h
    exact only_start hs.disk cfg s.db

/-- **The identity outlives the tokens.** Through any run and any restarts in which no other device
is registered or linked, every session that is kept has the keys, the device and the user it had,
whatever the server answers; and a refresh without a new refresh token keeps the one it
presented. -/
theorem identity_kept (E : AppExternals ε) (session : Session) {s s' : Sys ε}
    {ls : List (VaultLabel ε)} (hs : s.account.Only (SameDevice · session))
    (hguard : Run.Along (stepOrRestart E) (fun s l => s.keepsDevice l) s ls)
    (h : Run.after (stepOrRestart E) s ls = some s') :
    s'.account.Only (SameDevice · session) ∧ s'.KeepsPresented E :=
  ⟨Run.invariant_along (fun _ _ _ hs hguard h =>
    only_stepOrRestart (tokenFree_sameDevice session) hs hguard h) hs hguard h, keepsPresented E s'⟩

/-- A start on a session that is kept in clear. -/
def stored : Sys Unit :=
  start Unit ⟨"http://localhost", "TLS", true, false⟩ ⟨some (.plaintext .zeros), none, 0⟩ .init

/-- The session is restored, for whatever user the server names. -/
def restores : List (Label Unit) :=
  [.startup .quiet, .request 0 .zeros .quiet,
    .finish 0 (.tokens "other" "access1" "refresh1" 100) .quiet, .internal .quiet]

/-- A refresh brings no refresh token. -/
def refreshesAccess : List (Label Unit) :=
  [.request 0 .zeros .quiet, .finish 0 (.tokens "other" "access3" "" 300) .quiet, .internal .quiet]

/-- A session is restored and refreshed, the device authenticates again, and a new start restores
what is there then. -/
def renews : List (VaultLabel Unit) :=
  (restores ++ isRefused ++ refreshesAccess ++ reauthenticates).map .act ++
    .restart ⟨"http://localhost", "TLS", true, false⟩ :: restores.map .act

theorem identity_kept_renewed : ∃ s, Run.after (stepOrRestart .quiet) stored renews = some s ∧
    s.account.Only (SameDevice · .zeros) ∧ s.KeepsPresented .quiet := by
  have h : Run.after (stepOrRestart .quiet) stored renews =
      some (Run.ending (stepOrRestart .quiet) stored renews) :=
    Run.after_ending_nil (by decide +kernel)
  have hdir : ConfigDir.Only (SameDevice · .zeros) ⟨some (.plaintext .zeros), none, 0⟩ := by
    refine ⟨?_, nofun⟩
    rintro _ ⟨⟩ _ ⟨⟩
    exact .refl _
  exact ⟨_, h, identity_kept .quiet .zeros (only_start hdir _ _) (by decide +kernel) h⟩

/-- The refresh token that was presented is still the one in memory and on disk. -/
example : (Run.after (step .quiet) stored (restores ++ isRefused ++ refreshesAccess)).map (fun s =>
      (s.app.currentSession.map Session.refreshToken, s.dir.enc)) =
    some (some "refresh1",
      some (.plaintext (Session.zeros.withTokens "access3" "refresh1" 300))) := by
  decide +kernel

end Sys

import ConstructTui.App.Restore

/-!
# The key of the database

The database file outlives the session file. Its key is derived from a passphrase and from a salt
that is kept in the session file alone, and there is none while sessions are kept in clear. A logout
removes the salt, and the next passphrase comes with a fresh one, so that the old database no longer
opens.

## Main definitions

* `Sys.opens`: the key with which a step opens the database.
* `Vault`, `Vault.step`: the client, its database file, and restarts.
* `Vault.KeyAgrees`: a step that opens the database has the right key, and the pipeline starts.
* `Vault.keepsKey`: the condition on a step.
* `Account.Fits`: what holds while it is met.

## Main results

* `Sys.starts_iff`: the inputs that start a pipeline are those that open the database.
* `Vault.key_agrees`: in a run whose steps all meet the condition, every key is right.
* `Vault.passphrase_after_logout`: a run in which one is not.
-/

variable {ε : Type}

open Account

/-! ### Opening the database -/

/-- Nothing keeps `start_orchestrator` from opening the database. -/
def reachesStorage (E : AppExternals ε) (ans : Answers ε) (session : Session) (userId : String) :
    Bool :=
  (App.prepareOrchestrator E { ans with storageOpens := true } session userId).toBool

/-- A passphrase has been typed for a session that waits for one, and Enter is pressed. -/
def Sys.enters (s : Sys ε) (key : KeyEvent) : Bool :=
  s.app.screen = .setPassphrase && key.isPress && key.code = .enter &&
    s.app.unlockScreen.takePassphrase.1 ≠ [] && s.app.pendingSession.isSome

/-- The key with which the step opens the database, if it does. -/
def Sys.opens (E : AppExternals ε) (s : Sys ε) : Label ε → Option (Option Bytes)
  | .internal ans =>
    match s.queue.head?.map Queued.event with
    | some (.auth (.success m)) =>
      if (m.pendingSave.isSome →
          (s.app.sessionKey.isSome || s.app.noEncrypt) ∧ ans.save = .saved) ∧
          reachesStorage E ans m.fullSession m.userId
      then some (s.app.sessionKey.map fun sk => sk.keys.database) else none
    | _ => none
  | .key key ans =>
    match s.app.currentSession with
    | none => none
    | some full =>
      match E.deriveKeys s.app.unlockScreen.takePassphrase.1 ans.masterSalt with
      | .error _ => none
      | .ok keys =>
        if s.enters key ∧ ans.save = .saved ∧ reachesStorage E ans full s.app.userId
        then some (some keys.database) else none
  | _ => none

/-- Whether the database opens in the step. -/
def Label.storageOpens : Label ε → Bool
  | .startup ans | .key _ ans | .internal ans | .request _ _ ans | .finish _ _ ans =>
    ans.storageOpens
  | _ => true

namespace Sys

variable {E : AppExternals ε} {ans : Answers ε}

/-- Opening the database comes last. -/
theorem prepareOrchestrator_eq (session : Session) (userId : String) :
    App.prepareOrchestrator E ans session userId =
      (App.prepareOrchestrator E { ans with storageOpens := true } session userId).bind fun r =>
        if ans.storageOpens then .ok r else .error ("Storage open error: " ++ ans.error) := by
  unfold App.prepareOrchestrator
  cases App.decodeKey E session.identityKeyHex with
  | error e => rfl
  | ok identity =>
    cases App.decodeKey E session.signingKeyHex with
    | error e => rfl
    | ok signing =>
      cases App.decodeKey E session.spkKeyHex with
      | error e => rfl
      | ok spk =>
        cases App.decodeKey E session.spkSigHex with
        | error e => rfl
        | ok spkSig =>
          dsimp only [bind, Except.bind]
          cases E.fromKeys identity signing spk spkSig userId ans.core with
          | error e => rfl
          | ok core => cases ans.storageOpens <;> rfl

theorem ready_iff {session : Session} {userId : String} :
    Ready E ans session userId ↔ reachesStorage E ans session userId ∧ ans.storageOpens := by
  unfold Ready reachesStorage
  rw [prepareOrchestrator_eq]
  cases App.prepareOrchestrator E { ans with storageOpens := true } session userId with
  | error e => simp [Except.bind, Except.toBool]
  | ok r => cases ans.storageOpens <;> simp [Except.bind, Except.toBool]

theorem enters_iff {s : Sys ε} {key : KeyEvent} : s.enters key ↔
    s.app.screen = .setPassphrase ∧ key.isPress ∧ key.code = .enter ∧
      s.app.unlockScreen.takePassphrase.1 ≠ [] ∧ s.app.pendingSession.isSome := by
  simp only [enters, Bool.and_eq_true, decide_eq_true_eq, and_assoc]

/-- The inputs that start a pipeline are those with which the database is opened, when it opens. -/
theorem starts_iff {s : Sys ε} {a : Label ε} {input : Input} (ha : s.Takes a ans input) :
    Starts E ans s input ↔ (s.opens E a).isSome ∧ ans.storageOpens := by
  cases ha with
  | key key =>
    simp only [Starts, Protects, opens, ready_iff]
    cases s.app.currentSession with
    | none => simp
    | some full =>
      cases E.deriveKeys s.app.unlockScreen.takePassphrase.1 ans.masterSalt with
      | error e => simp
      | ok keys =>
        dsimp only
        rw [Option.isSome_ite, enters_iff]
        constructor
        · rintro ⟨hscreen, hpress, hcode, ⟨htyped, hpending, -, hsave⟩, full', hfull, hready⟩
          cases hfull
          exact ⟨⟨⟨hscreen, hpress, hcode, htyped, hpending⟩, hsave, hready.1⟩, hready.2⟩
        · rintro ⟨⟨⟨hscreen, hpress, hcode, htyped, hpending⟩, hsave, hready⟩, hopen⟩
          exact ⟨hscreen, hpress, hcode, ⟨htyped, hpending, ⟨keys, rfl⟩, hsave⟩, full, rfl, hready,
            hopen⟩
  | @event q queue _ hqueue =>
    simp only [opens, hqueue, List.head?_cons, Option.map_some]
    unfold Starts
    obtain ⟨event, gone⟩ := q
    cases event with
    | auth msg =>
      cases msg with
      | success m =>
        simp only [Option.isSome_ite, ready_iff, Bool.or_eq_true]
        exact and_assoc.symm
      | failure msg => simp
    | _ => simp

end Sys

/-! ### The session file and the key -/

/-- The session file at its place, under whichever name it was found. -/
def ConfigDir.current (d : ConfigDir) : Option SessionFile := d.sessionPath.enc

/-- The session file, if it is sealed at all, is sealed under a passphrase that also gives the
key. -/
def SealedWith (E : AppExternals ε) (key : Bytes) : Option SessionFile → Prop
  | some (.encrypted (some masterSalt) (some (sealing, _))) => ∃ passphrase keys,
    E.deriveKeys passphrase masterSalt = .ok keys ∧ keys.session = sealing ∧ keys.database = key
  | some (.plaintext _) => False
  | _ => True

/-- The session file is not sealed. -/
def Unsealed : Option SessionFile → Prop
  | some (.encrypted _ _) => False
  | _ => True

/-- The database was just opened with a key that comes with the session file. -/
def Account.OpenedWith (A : Account) : Option Bytes → Prop
  | none => A.sessionKey = none ∧ ∃ session, A.dir.current = some (.plaintext session)
  | some key => ∃ sk session, A.sessionKey = some sk ∧ sk.keys.database = key ∧
    A.dir.current = some (.encrypted (some sk.masterSalt) (some (sk.keys.session, session)))

namespace ConfigDir

theorem current_sessionPath (d : ConfigDir) : d.sessionPath.current = d.current :=
  congrArg enc (sessionPath_sessionPath d)

/-- A write leaves the new file, or a part of it, or changes nothing. -/
theorem current_saveFile (file : SessionFile) (outcome : SaveOutcome) (d : ConfigDir) :
    (d.saveFile file outcome).2.current = some file ∨
      (d.saveFile file outcome).2.current = some .garbage ∨
      (d.saveFile file outcome).2.current = d.current := by
  cases outcome with
  | saved => exact .inl rfl
  | notWritten e => exact .inr (.inr (current_sessionPath d))
  | halfWritten e => exact .inr (.inl rfl)
  | permissionsFailed e => exact .inl rfl

theorem current_saved (file : SessionFile) {outcome : SaveOutcome} (h : outcome = .saved)
    (d : ConfigDir) : (d.saveFile file outcome).2.current = some file := by
  rw [h]
  rfl

theorem current_of_loadSession {d : ConfigDir} {session : Session}
    (h : d.loadSession = .ok (some session)) : d.current = some (.plaintext session) := by
  unfold loadSession at h
  unfold current
  cases hfile : d.sessionPath.enc with
  | none =>
    rw [hfile] at h
    cases h
  | some file =>
    rw [hfile] at h
    cases file with
    | plaintext session' =>
      cases h
      rfl
    | encrypted _ _ => cases h
    | garbage => cases h

end ConfigDir

namespace Sys

variable {E : AppExternals ε} {ans : Answers ε}

theorem openedWith_saved {A : Account} {session : Session}
    (hdir : A.dir.current = some (ConfigDir.sessionFile session A.sessionKey)) :
    A.OpenedWith (A.sessionKey.map fun sk => sk.keys.database) := by
  cases hkey : A.sessionKey with
  | none =>
    rw [hkey] at hdir
    exact ⟨hkey, session, hdir⟩
  | some sk =>
    rw [hkey] at hdir
    exact ⟨sk, session, hkey, rfl, hdir⟩

/-- Enter on a typed passphrase saves the session that waits. -/
theorem handleEvent_enter {s : Sys ε} {key : KeyEvent} {session : Session}
    (hscreen : s.app.screen = .setPassphrase) (hpress : key.isPress) (hcode : key.code = .enter)
    (htyped : s.app.unlockScreen.takePassphrase.1 ≠ [])
    (hpending : s.app.pendingSession = some session) : App.handleEvent E ans key s =
      App.protect E ans s.app.unlockScreen.takePassphrase.1 session (s.modApp fun a =>
        { a with unlockScreen := s.app.unlockScreen.takePassphrase.2 }) := by
  have htyped' : ¬s.app.unlockScreen.takePassphrase.1.isEmpty = true := by simpa using htyped
  have hevent : App.handleEvent E ans key s = App.handleSetPassphrase E ans key s := by
    unfold App.handleEvent
    simp [hscreen, hpress, hcode]
  rw [hevent]
  unfold App.handleSetPassphrase
  rw [hcode]
  dsimp only [modApp]
  rw [if_neg htyped', hpending]

/-- The step that opens the database leaves a session file that comes with the key. -/
theorem openedWith_of_opens {s s' : Sys ε} {a : Label ε} {key : Option Bytes}
    (hphase : s.Early ∨ s.account.Late) (hopens : s.opens E a = some key)
    (hs : step E s a = some s') : s'.account.OpenedWith key := by
  cases stepped hs with
  | @internal ans q queue _ hqueue =>
    obtain hearly | hlate := hphase
    · obtain ⟨m, extra, hq, hsave, hloaded, -, heq⟩ := hearly.internal E ans hqueue
      have hkey : key = none := by
        simp only [opens, hq, List.head?_cons, Option.map_some] at hopens
        rw [hearly.creds.2.2, Option.ite_none_right_eq_some] at hopens
        exact (Option.some.inj hopens.2).symm
      subst hkey
      rw [heq]
      exact ⟨hearly.creds.2.2, m.fullSession, ConfigDir.current_of_loadSession hloaded⟩
    · obtain ⟨event, gone⟩ := q
      simp only [opens, hqueue, List.head?_cons, Option.map_some] at hopens
      split at hopens
      · next m hm =>
        obtain rfl : event = .auth (.success m) := Option.some.inj hm
        rw [Option.ite_none_right_eq_some] at hopens
        obtain ⟨⟨hsaves, -⟩, hkey⟩ := hopens
        have hpending : m.pendingSave = some m.fullSession := by
          refine hlate.events m ?_
          rw [account, hqueue]
          exact List.mem_cons_self
        obtain ⟨hsaves, hsave⟩ := hsaves (by rw [hpending]; rfl)
        obtain ⟨v, hv, heq⟩ := App.handleInternal_auth E ans (.success m) gone
          { s with queue := queue }
        have hadopted := account_adopted (s := s) m (u := v) hv.account
        rw [heq, handleAuthMsg_success hpending]
        generalize App.startTokenRefresh m.fullSession (App.adoptSession m v) = u at hadopted ⊢
        have hsame : u.app.sessionKey = s.app.sessionKey := congrArg Account.sessionKey hadopted
        have hencrypt : u.app.noEncrypt = s.app.noEncrypt := congrArg Account.noEncrypt hadopted
        obtain ⟨extra, -, hsaved⟩ := App.account_saved E ans m m.fullSession (s := u)
          (by rw [hsame, hencrypt]; exact hsaves) hsave
        rw [hsaved, ← Option.some.inj hkey, ← hsame]
        exact openedWith_saved (ConfigDir.current_saved _ hsave u.dir)
      · cases hopens
  | @key pressed ans =>
    rw [opens] at hopens
    split at hopens
    · cases hopens
    · split at hopens
      · cases hopens
      · next keys hkeys =>
        rw [Option.ite_none_right_eq_some, enters_iff] at hopens
        obtain ⟨⟨⟨hscreen, hpress, hcode, htyped, hpending⟩, hsave, -⟩, hkey⟩ := hopens
        obtain ⟨session, hsession⟩ := Option.isSome_iff_exists.mp hpending
        obtain ⟨extra, -, heq⟩ := App.account_protect E ans session (s := s.modApp
          fun a => { a with unlockScreen := s.app.unlockScreen.takePassphrase.2 }) hkeys hsave
        rw [handleEvent_enter hscreen hpress hcode htyped hsession, heq, ← Option.some.inj hkey]
        exact ⟨_, session, rfl, rfl, ConfigDir.current_saved _ hsave s.dir⟩
  | _ => cases hopens

end Sys

/-! ### The file and restarts -/

/-- The client with its database file, which is absent or was created with a key, or with none. -/
structure Vault (ε : Type) where
  sys : Sys ε
  file : Option (Option Bytes)

/-- A step of the client, or a new start on the files that are there. -/
inductive VaultLabel (ε : Type)
  | act (a : Label ε)
  | restart (cfg : AppConfig)

namespace Vault

variable (E : AppExternals ε)

/-- A client that is started where there is no database. -/
def start (ε : Type) (cfg : AppConfig) (dir : ConfigDir) (db : Storage) : Vault ε :=
  ⟨Sys.start ε cfg dir db, none⟩

/-- The database opens exactly when its file is absent or was created with the same key. -/
def step (v : Vault ε) : VaultLabel ε → Option (Vault ε)
  | .restart cfg => some ⟨Sys.start ε cfg v.sys.dir v.sys.db, v.file⟩
  | .act a =>
    match v.sys.opens E a with
    | none => (Sys.step E v.sys a).map fun s => ⟨s, v.file⟩
    | some key =>
      if a.storageOpens = (v.file.isNone || v.file = some key)
      then (Sys.step E v.sys a).map fun s => ⟨s, some (v.file.getD key)⟩
      else none

/-- If the step opens the database, then its key is the one of the file, and a pipeline starts. -/
def KeyAgrees (v : Vault ε) : VaultLabel ε → Prop
  | .restart _ => True
  | .act a => ∀ key, v.sys.opens E a = some key → (v.file = none ∨ v.file = some key) ∧
      ∀ v', step E v (.act a) = some v' →
        v'.sys.pipelines.length = v.sys.pipelines.length + 1

/-- A passphrase is chosen only when there is no database yet, and a session is saved in clear only
when the database is not encrypted. -/
def keepsKey (v : Vault ε) : VaultLabel ε → Bool
  | .act (.key key _) => !v.sys.enters key || v.file.isNone
  | .act (.internal _) =>
    match v.sys.queue.head?.map Queued.event with
    | some (.auth (.success m)) => m.pendingSave.isNone || v.sys.app.sessionKey.isSome ||
      !v.sys.app.noEncrypt || v.file.isNone || v.file = some none
    | _ => true
  | _ => true

end Vault

/-- The session file goes with the database, and there is one at most. -/
structure ConfigDir.Fits (E : AppExternals ε) (file : Option (Option Bytes)) (d : ConfigDir) :
    Prop where
  sealed : ∀ key, file = some (some key) → SealedWith E key d.current
  unsealed : file = some none → Unsealed d.current
  single : d.enc = none ∨ d.legacy = none

/-- The credentials go with the database. -/
structure Account.Fits (E : AppExternals ε) (file : Option (Option Bytes)) (A : Account) :
    Prop where
  disk : A.dir.Fits E file
  derived : ∀ sk, A.sessionKey = some sk →
    ∃ passphrase, E.deriveKeys passphrase sk.masterSalt = .ok sk.keys
  keyed : ∀ sk key, A.sessionKey = some sk → file = some key → key = some sk.keys.database
  plain : ∀ key, file = some (some key) → A.sessionKey = none → A.noEncrypt →
    A.currentSession = none

namespace ConfigDir

variable {E : AppExternals ε} {file : Option (Option Bytes)} {d : ConfigDir}

theorem Fits.legacy (h : d.Fits E file) : d.sessionPath.legacy = none := by
  unfold sessionPath
  obtain hs | hs := h.single
  · rw [if_pos (by rw [hs]; rfl)]
  · split
    · rfl
    · exact hs

theorem Fits.sessionPath (h : d.Fits E file) : d.sessionPath.Fits E file where
  sealed key hfile := (current_sessionPath d).symm ▸ h.sealed key hfile
  unsealed hfile := (current_sessionPath d).symm ▸ h.unsealed hfile
  single := .inr h.legacy

/-- A file that goes with the database may be written, and the write may fail. -/
theorem Fits.saveFile (h : d.Fits E file) (new : SessionFile)
    (hsealed : ∀ key, file = some (some key) → SealedWith E key (some new))
    (hunsealed : file = some none → Unsealed (some new)) (outcome : SaveOutcome) :
    (d.saveFile new outcome).2.Fits E file := by
  have hlegacy : (d.saveFile new outcome).2.legacy = none := by
    cases outcome <;> exact h.legacy
  obtain hc | hc | hc := current_saveFile new outcome d
  · exact ⟨fun key hfile => hc ▸ hsealed key hfile, fun hfile => hc ▸ hunsealed hfile, .inr hlegacy⟩
  · exact ⟨fun key hfile => hc ▸ trivial, fun hfile => hc ▸ trivial, .inr hlegacy⟩
  · exact ⟨fun key hfile => hc ▸ h.sealed key hfile, fun hfile => hc ▸ h.unsealed hfile,
      .inr hlegacy⟩

theorem Fits.clearSession (h : d.Fits E file) (outcome : ClearOutcome) :
    (d.clearSession outcome).2.Fits E file := by
  have hpath := h.sessionPath
  have hgone {d' : ConfigDir} (hlegacy : d'.legacy = none) (henc : d'.enc = none) :
      d'.Fits E file := by
    have hcurrent : d'.current = none := by
      unfold current ConfigDir.sessionPath
      rw [if_pos (by rw [henc]; rfl)]
      exact hlegacy
    exact ⟨fun key hfile => hcurrent ▸ trivial, fun hfile => hcurrent ▸ trivial, .inl henc⟩
  unfold ConfigDir.clearSession
  dsimp only
  split
  · exact hpath
  · cases outcome with
    | cleared => exact hgone h.legacy rfl
    | untouched e => exact hpath
    | overwritten e => exact ⟨fun key hfile => trivial, fun hfile => trivial, .inr h.legacy⟩

end ConfigDir

namespace Account

variable {E : AppExternals ε} {file : Option (Option Bytes)} {A B : Account}

/-- The file in which a session is kept goes with the database. -/
theorem Fits.sessionFile (h : A.Fits E file)
    (hplain : A.sessionKey = none → file = none ∨ file = some none) (session : Session)
    (outcome : SaveOutcome) :
    (A.dir.saveFile (ConfigDir.sessionFile session A.sessionKey) outcome).2.Fits E file := by
  refine h.disk.saveFile _ (fun key hfile => ?_) (fun hfile => ?_) outcome
  · cases hkey : A.sessionKey with
    | none => obtain hf | hf := hplain hkey <;> cases hf.symm.trans hfile
    | some sk =>
      obtain ⟨passphrase, hderived⟩ := h.derived sk hkey
      exact ⟨passphrase, sk.keys, hderived, rfl, (Option.some.inj (h.keyed sk _ hkey hfile)).symm⟩
  · cases hkey : A.sessionKey with
    | none => trivial
    | some sk => cases h.keyed sk _ hkey hfile

theorem Fits.congr (h : A.Fits E file) (hdisk : B.dir.Fits E file)
    (hkey : B.sessionKey = A.sessionKey) (hencrypt : B.noEncrypt = A.noEncrypt)
    (hcurrent : A.currentSession = none → B.currentSession = none) : B.Fits E file where
  disk := hdisk
  derived := by
    rw [hkey]
    exact h.derived
  keyed := by
    rw [hkey]
    exact h.keyed
  plain := by
    rw [hkey, hencrypt]
    exact fun key hfile hnone hplain => hcurrent (h.plain key hfile hnone hplain)

theorem Quiet.fits (h : A.Quiet B) (hA : A.Fits E file) : B.Fits E file := by
  obtain ⟨hcurrent, -, hkey, hencrypt⟩ := h.creds
  refine hA.congr ?_ hkey hencrypt fun hnone => hcurrent.trans hnone
  obtain h | h := h.dir
  · exact h ▸ hA.disk
  · exact h ▸ hA.disk.sessionPath

/-- The database is created with the key that comes with the session file. -/
theorem Fits.opened (h : A.Fits E none) {key : Option Bytes} (hopened : A.OpenedWith key) :
    A.Fits E (some key) := by
  cases key with
  | none =>
    obtain ⟨hnone, session, hcurrent⟩ := hopened
    refine ⟨⟨nofun, fun _ => hcurrent ▸ trivial, h.disk.single⟩, h.derived, ?_, nofun⟩
    intro sk key hkey
    cases hnone.symm.trans hkey
  | some key =>
    obtain ⟨sk, session, hkey, hdatabase, hcurrent⟩ := hopened
    obtain ⟨passphrase, hderived⟩ := h.derived sk hkey
    refine ⟨⟨?_, nofun, h.disk.single⟩, h.derived, ?_, ?_⟩
    · rintro _ ⟨⟩
      rw [hcurrent]
      exact ⟨passphrase, sk.keys, hderived, rfl, hdatabase⟩
    · rintro sk' _ hkey' ⟨⟩
      rw [← hdatabase, Option.some.inj (hkey.symm.trans hkey')]
    · intro _ _ hnone
      cases hkey.symm.trans hnone

end Account

/-! ### Steps -/

namespace Vault

variable {E : AppExternals ε}

/-- Two passphrases that seal alike under one salt also give one key. -/
def KeysSplit (E : AppExternals ε) : Prop :=
  ∀ passphrase passphrase' masterSalt keys keys',
    E.deriveKeys passphrase masterSalt = .ok keys →
      E.deriveKeys passphrase' masterSalt = .ok keys' →
      keys.session = keys'.session → keys.database = keys'.database

/-- What the condition says of an authentication that is taken. -/
theorem keepsKey_success {v : Vault ε} {ans : Answers ε} {m : AuthSuccess}
    {rest : List InternalEvent} (hlate : v.sys.account.Late)
    (hevents : v.sys.account.events = .auth (.success m) :: rest)
    (hguard : v.keepsKey (.act (.internal ans))) (hkey : v.sys.app.sessionKey = none)
    (hplain : v.sys.app.noEncrypt) : v.file = none ∨ v.file = some none := by
  have hhead : v.sys.queue.head?.map Queued.event = some (.auth (.success m)) := by
    have h := congrArg List.head? hevents
    rwa [Sys.account, List.head?_map] at h
  have hpending : m.pendingSave = some m.fullSession :=
    hlate.events m (hevents ▸ List.mem_cons_self)
  simpa [keepsKey, hhead, hpending, hkey, hplain] using hguard

/-- The key that opens the session file also opens the database. -/
theorem database_of_unlocked {file : Option (Option Bytes)} {d : ConfigDir} {passphrase : Bytes}
    {sk : SessionKey} {session : Session} (hkeys : KeysSplit E) (hfits : d.Fits E file)
    (hopen : d.openSessionKey E.deriveKeys passphrase = .ok (some sk))
    (hload : d.loadSessionEncrypted sk = .ok (some session)) :
    E.deriveKeys passphrase sk.masterSalt = .ok sk.keys ∧
      ∀ key, file = some key → key = some sk.keys.database := by
  have hsealed := hfits.sealed
  have hunsealed := hfits.unsealed
  unfold ConfigDir.current at hsealed hunsealed
  unfold ConfigDir.openSessionKey at hopen
  unfold ConfigDir.loadSessionEncrypted at hload
  split at hopen
  · cases hopen
  · next masterSalt content hfile =>
    rw [hfile] at hload hsealed hunsealed
    cases hderive : E.deriveKeys passphrase masterSalt with
    | error e =>
      rw [hderive] at hopen
      cases hopen
    | ok keys =>
      rw [hderive] at hopen
      cases hopen
      refine ⟨hderive, fun key hkey => ?_⟩
      cases content with
      | none => cases hload
      | some content =>
        dsimp only at hload
        split at hload
        · next hsession =>
          cases key with
          | none => exact (hunsealed hkey).elim
          | some key =>
            obtain ⟨passphrase', keys', hderive', hsession', hdatabase⟩ := hsealed key hkey
            rw [← hdatabase]
            exact congrArg some (hkeys _ _ _ _ _ hderive' hderive (hsession'.trans hsession))
        · cases hload
  · cases hopen
  · cases hopen

/-- Once nothing is being restored, a step that meets the condition keeps the credentials in line
with the database file from before. -/
theorem acts_fits {v : Vault ε} {a : Label ε} {B : Account} (h : v.sys.Acts E a B)
    (hkeys : KeysSplit E) (hlate : v.sys.account.Late) (hfits : v.sys.account.Fits E v.file)
    (hguard : v.keepsKey (.act a)) : B.Fits E v.file := by
  have hwritten {ans : Answers ε} {m : AuthSuccess} {rest : List InternalEvent}
      (hevents : v.sys.account.events = .auth (.success m) :: rest)
      (hkey : v.sys.app.sessionKey.isSome ∨ v.sys.app.noEncrypt)
      (hguard : v.keepsKey (.act (.internal ans)))
      (hdir : B.dir = (v.sys.dir.saveFile
        (ConfigDir.sessionFile m.fullSession v.sys.app.sessionKey) ans.save).2)
      (hsame : B.sessionKey = v.sys.app.sessionKey) : B.Fits E v.file := by
    have hplain (hnone : v.sys.app.sessionKey = none) : v.file = none ∨ v.file = some none := by
      refine keepsKey_success hlate hevents hguard hnone (hkey.resolve_left ?_)
      rw [hnone]
      exact nofun
    refine ⟨hdir ▸ hfits.sessionFile hplain m.fullSession ans.save, ?_, ?_, ?_⟩
    · rw [hsame]
      exact hfits.derived
    · rw [hsame]
      exact hfits.keyed
    · intro key hfile hnone
      obtain hf | hf := hplain (hsame.symm.trans hnone) <;> cases hf.symm.trans hfile
  have hentered {key : KeyEvent} {ans : Answers ε} (hscreen : v.sys.app.screen = .setPassphrase)
      (hkey : key.isPress ∧ key.code = .enter)
      (htyped : v.sys.app.unlockScreen.takePassphrase.1 ≠ [])
      (hpending : v.sys.app.pendingSession.isSome) (hguard : v.keepsKey (.act (.key key ans))) :
      v.file = none := by
    have henters := Sys.enters_iff.mpr ⟨hscreen, hkey.1, hkey.2, htyped, hpending⟩
    simpa [keepsKey, henters] using hguard
  cases h with
  | quiet h => exact h.fits hfits
  | saved hevents hkey hsave hextra => exact hwritten hevents hkey hguard rfl rfl
  | unsaved e hevents hkey hsave => exact hwritten hevents hkey hguard rfl rfl
  | waits hevents hkey hencrypt =>
    refine ⟨hfits.disk, hfits.derived, hfits.keyed, fun key hfile hnone hplain => ?_⟩
    cases hencrypt.symm.trans hplain
  | refreshed hevents hcurrent hupdated =>
    have hplain (hnone : v.sys.app.sessionKey = none) (hplain : v.sys.app.noEncrypt) :
        v.file = none ∨ v.file = some none := by
      cases hfile : v.file with
      | none => exact .inl rfl
      | some key =>
        cases key with
        | none => exact .inr rfl
        | some key => cases (hfits.plain key hfile hnone hplain).symm.trans hcurrent
    refine ⟨?_, hfits.derived, hfits.keyed, fun key hfile hnone hplain' => ?_⟩
    · show ConfigDir.Fits E v.file (if _ then _ else _)
      split
      · next hwrites =>
        refine hfits.sessionFile (fun hnone => hplain hnone ?_) _ _
        simpa [show v.sys.app.sessionKey = none from hnone] using hwrites
      · exact hfits.disk
    · obtain hf | hf := hplain hnone hplain' <;> cases hf.symm.trans hfile
  | wakes hevents hcurrent => exact hfits.congr hfits.disk rfl rfl id
  | reauthenticates hevents hcurrent => exact hfits.congr hfits.disk rfl rfl id
  | invited hevents => exact hfits.congr hfits.disk rfl rfl id
  | unlocked msg hscreen hopen hload =>
    obtain ⟨hderived, hdatabase⟩ := database_of_unlocked hkeys hfits.disk hopen hload
    refine ⟨hfits.disk.sessionPath, ?_, ?_, fun key hfile hnone => nomatch hnone⟩
    · rintro sk ⟨⟩
      exact ⟨_, hderived⟩
    · rintro sk key ⟨⟩ hfile
      exact hdatabase key hfile
  | sealed hscreen hkey htyped hpending hderived hsave hextra =>
    have hnone := hentered hscreen hkey htyped (by rw [hpending]; rfl) hguard
    rw [hnone] at hfits ⊢
    refine ⟨hfits.disk.saveFile _ nofun nofun _, ?_, nofun, nofun⟩
    rintro sk ⟨⟩
    exact ⟨_, hderived⟩
  | sealFailed hscreen hkey htyped hpending hderived hsave =>
    have hnone := hentered hscreen hkey htyped (by rw [hpending]; rfl) hguard
    rw [hnone] at hfits ⊢
    exact hfits.congr (hfits.disk.saveFile _ nofun nofun _) rfl rfl id
  | loggedOut h =>
    exact ⟨hfits.disk.clearSession _, nofun, nofun, fun _ _ _ _ => rfl⟩
  | stuck hscreen hclear => exact hfits.congr (hfits.disk.clearSession _) rfl rfl id
  | requested session' hr => exact hfits.congr hfits.disk rfl rfl id
  | ended hr h => exact hfits.congr hfits.disk rfl rfl id

/-- A restore keeps the session file in line with the database: there is only one in clear where the
database is not encrypted. -/
theorem restored_fits {file : Option (Option Bytes)} {d d' : ConfigDir} (h : d.Restored d')
    (hfits : d.Fits E file) : d'.Fits E file := by
  obtain rfl | rfl | ⟨session, updated, outcome, hload, rfl⟩ := h
  · exact hfits
  · exact hfits.sessionPath
  · refine hfits.saveFile (.plaintext updated) (fun key hfile => ?_) (fun _ => trivial) outcome
    have hsealed := hfits.sealed key hfile
    rw [ConfigDir.current_of_loadSession hload] at hsealed
    exact hsealed.elim

/-- The restore is under way or over, and the credentials go with the database. -/
def Intact (E : AppExternals ε) (v : Vault ε) : Prop :=
  (v.sys.Early ∨ v.sys.account.Late) ∧ v.sys.account.Fits E v.file

/-- A step of the client, before it is known whether it creates the database. -/
theorem Intact.act {v : Vault ε} {a : Label ε} {s : Sys ε} (h : v.Intact E)
    (hkeys : KeysSplit E) (hguard : v.keepsKey (.act a)) (hs : Sys.step E v.sys a = some s) :
    Intact E ⟨s, v.file⟩ := by
  obtain ⟨hearly | hlate, hfits⟩ := h
  · have hnone (A : Account) (hkey : A.sessionKey = none) (hdisk : A.dir.Fits E v.file)
        (hplain : ∀ key, v.file = some (some key) → A.currentSession = none) : A.Fits E v.file := by
      refine ⟨hdisk, fun sk hsk => ?_, fun sk _ hsk => ?_, fun key hfile _ _ => hplain key hfile⟩
      · cases hkey.symm.trans hsk
      · cases hkey.symm.trans hsk
    cases hearly.next hs with
    | stays h hdir =>
      exact ⟨.inl h, hnone _ h.creds.2.2 (restored_fits hdir hfits.disk) fun _ _ => h.creds.1⟩
    | leaves hlate hcreds hscreen htasks hevents hdir =>
      exact ⟨.inr hlate, hnone _ hcreds.2.2 (restored_fits hdir hfits.disk) fun _ _ => hcreds.1⟩
    | restores ans m extra ha hqueue hsave hloaded hextra haccount =>
      rw [Intact, haccount]
      refine ⟨.inr ⟨fun r hr => Sys.ne_restore_of_plain (hextra r hr), nofun, nofun⟩,
        hnone _ hearly.creds.2.2 hfits.disk fun key hfile => ?_⟩
      have hsealed := hfits.disk.sealed key hfile
      rw [show v.sys.account.dir.current =
        _ from ConfigDir.current_of_loadSession hloaded] at hsealed
      exact hsealed.elim
  · have hacts := Sys.acts hlate hs
    exact ⟨.inr (hacts.late hlate), acts_fits (v := v) hacts hkeys hlate hfits hguard⟩

theorem Intact.opens {v : Vault ε} {a : Label ε} {key : Option Bytes} (h : v.Intact E)
    (hguard : v.keepsKey (.act a)) (hopens : v.sys.opens E a = some key) :
    v.file = none ∨ v.file = some key := by
  obtain ⟨hphase, hfits⟩ := h
  cases a with
  | internal ans =>
    rw [Sys.opens] at hopens
    split at hopens
    · next m hhead =>
      rw [Option.ite_none_right_eq_some] at hopens
      obtain ⟨⟨hsaves, -⟩, hkey⟩ := hopens
      rw [← Option.some.inj hkey]
      cases hkey' : v.sys.app.sessionKey with
      | some sk =>
        cases hfile : v.file with
        | none => exact .inl rfl
        | some key' => exact .inr (congrArg some (hfits.keyed sk key' hkey' hfile))
      | none =>
        cases hqueue : v.sys.queue with
        | nil =>
          rw [hqueue] at hhead
          cases hhead
        | cons q queue =>
          rw [hqueue] at hhead
          have hevents : v.sys.account.events = .auth (.success m) :: queue.map Queued.event := by
            rw [Sys.account, hqueue]
            exact congrArg (· :: queue.map Queued.event) (Option.some.inj hhead)
          obtain hearly | hlate := hphase
          · obtain ⟨m', extra, -, -, hloaded, -⟩ := hearly.internal E ans hqueue
            cases hfile : v.file with
            | none => exact .inl rfl
            | some key' =>
              cases key' with
              | none => exact .inr rfl
              | some key' =>
                have hsealed := hfits.disk.sealed key' hfile
                rw [show v.sys.account.dir.current = _ from
                  ConfigDir.current_of_loadSession hloaded] at hsealed
                exact hsealed.elim
          · have hpending := hlate.events m (hevents ▸ List.mem_cons_self)
            have hplain := (hsaves (by rw [hpending]; rfl)).1
            exact keepsKey_success hlate hevents hguard hkey' (by simpa [hkey'] using hplain)
    · cases hopens
  | key pressed ans =>
    rw [Sys.opens] at hopens
    split at hopens
    · cases hopens
    · split at hopens
      · cases hopens
      · rw [Option.ite_none_right_eq_some] at hopens
        have henters := hopens.1.1
        exact .inl (by simpa [keepsKey, henters] using hguard)
  | _ => cases hopens

theorem Intact.next {v v' : Vault ε} {l : VaultLabel ε} (h : v.Intact E) (hkeys : KeysSplit E)
    (hguard : v.keepsKey l) (hs : step E v l = some v') : v'.Intact E := by
  cases l with
  | restart cfg =>
    obtain rfl := Option.some.inj hs
    exact ⟨.inl (Sys.early_start cfg _ _), h.2.disk, nofun, nofun, fun _ _ _ _ => rfl⟩
  | act a =>
    unfold step at hs
    dsimp only at hs
    split at hs
    · obtain ⟨s, hs', rfl⟩ := Option.map_eq_some_iff.mp hs
      exact h.act hkeys hguard hs'
    · next key hopens =>
      rw [Option.ite_none_right_eq_some] at hs
      obtain ⟨s, hs', rfl⟩ := Option.map_eq_some_iff.mp hs.2
      have hintact := h.act hkeys hguard hs'
      have hopened := Sys.openedWith_of_opens h.1 hopens hs'
      obtain hfile | hfile := h.opens hguard hopens
      · rw [hfile] at hintact ⊢
        exact ⟨hintact.1, hintact.2.opened hopened⟩
      · rw [hfile] at hintact ⊢
        exact hintact

/-- With the right key, the database opens and a pipeline starts. -/
theorem pipelines_of_opens {v v' : Vault ε} {a : Label ε} {key : Option Bytes}
    (hopens : v.sys.opens E a = some key) (hfile : v.file = none ∨ v.file = some key)
    (hs : step E v (.act a) = some v') :
    v'.sys.pipelines.length = v.sys.pipelines.length + 1 := by
  unfold step at hs
  dsimp only at hs
  rw [hopens] at hs
  dsimp only at hs
  rw [Option.ite_none_right_eq_some] at hs
  obtain ⟨hstorage, hs⟩ := hs
  obtain ⟨s, hs', rfl⟩ := Option.map_eq_some_iff.mp hs
  have hopen : a.storageOpens = true := by
    obtain hf | hf := hfile <;> simpa [hf] using hstorage
  obtain ⟨ans, input, htakes, hans⟩ : ∃ ans input, v.sys.Takes a ans input ∧
      ans.storageOpens = true := by
    cases a with
    | key key ans => exact ⟨ans, _, .key key ans, hopen⟩
    | internal ans =>
      cases hqueue : v.sys.queue with
      | nil => simp [Sys.opens, hqueue] at hopens
      | cons q queue => exact ⟨ans, _, .event ans hqueue, hopen⟩
    | _ => cases hopens
  have hstarts := (Sys.starts_iff htakes).mpr ⟨by rw [hopens]; rfl, hans⟩
  obtain ⟨queue, -, rfl⟩ := Sys.step_of_takes htakes hs'
  have hstarted : Started E ans { v.sys with queue := queue }
      (App.handle E ans { v.sys with queue := queue } input) := by
    cases input with
    | key key => exact App.started_handleEvent E ans (s := { v.sys with queue := queue }) hstarts
    | event event gone =>
      exact App.started_handleInternal E ans (s := { v.sys with queue := queue }) hstarts
  obtain ⟨_, _, _, _, _, hpipelines⟩ := hstarted.pipelines
  rw [hpipelines, List.length_append]
  rfl

/-- Let the keys be split from one that the passphrase gives. In every run of the client and of
restarts whose steps all meet the condition, each time the database is opened, its file is absent or
was created with the same key, so that it opens and a pipeline starts. -/
theorem key_agrees (E : AppExternals ε) (hkeys : KeysSplit E) (cfg : AppConfig) (dir : ConfigDir)
    (db : Storage) (hdir : dir.enc = none ∨ dir.legacy = none) (ls : List (VaultLabel ε))
    (hguard : Run.Along (step E) (fun v l => v.keepsKey l) (start ε cfg dir db) ls) :
    Run.Along (step E) (KeyAgrees E) (start ε cfg dir db) ls := by
  refine hguard.imp (I := Intact E) (fun v l v' hI hs hG => hI.next hkeys hG hs)
    (fun v l hI hG => ?_) ?_
  · cases l with
    | restart cfg => trivial
    | act a =>
      intro key hopens
      have hfile := hI.opens hG hopens
      exact ⟨hfile, fun v' hs => pipelines_of_opens hopens hfile hs⟩
  · exact ⟨.inl (Sys.early_start cfg dir db), ⟨nofun, nofun, hdir⟩, nofun, nofun, nofun⟩

/-! ### Another passphrase -/

/-- Surroundings in which a key is the salt and the passphrase. -/
def salting : AppExternals Unit :=
  { AppExternals.quiet with
    deriveKeys := fun passphrase masterSalt =>
      .ok ⟨masterSalt ++ passphrase, masterSalt ++ passphrase⟩ }

theorem keysSplit_salting : KeysSplit salting := by
  rintro passphrase passphrase' masterSalt _ _ ⟨⟩ ⟨⟩ hsession
  exact hsession

/-- Answers with a fresh salt, which tell whether the database opens. -/
def salted (salt : UInt8) (opens : Bool) : Answers Unit :=
  { Answers.quiet with masterSalt := [salt], storageOpens := opens }

/-- The passphrase unlocks the session after a start, and the tokens are refreshed. -/
def unlocks : List (Label Unit) :=
  .startup .quiet :: (Sys.typesPassphrase .quiet ++ [.request 0 .zeros .quiet,
    .finish 0 (.tokens "me" "access2" "refresh2" 200) .quiet, .internal .quiet])

/-- A user registers, chooses a passphrase, and unlocks the session after a restart. -/
def unlocksAgain : List (VaultLabel Unit) :=
  (Sys.registers ++ Sys.typesPassphrase (salted 1 true)).map .act ++
    .restart ⟨"http://localhost", "TLS", false, false⟩ :: unlocks.map .act

theorem key_agrees_unlocked : Run.Along (step salting) (KeyAgrees salting)
    (start Unit ⟨"http://localhost", "TLS", false, false⟩ ⟨none, none, 0⟩ .init) unlocksAgain :=
  key_agrees salting keysSplit_salting _ _ _ (.inl rfl) _ (by decide +revert)

/-- The user logs out and registers again. -/
def registersAgain : List (Label Unit) :=
  [.key (.plain (.char 's')) .quiet, .key (.plain (.char 'l')) .quiet,
    .key (.plain .enter) .quiet, .request 1 .zeros .quiet,
    .finish 1 (.tokens "me" "access2" "refresh2" 200) .quiet, .internal .quiet,
    .key (.plain (.char 'p')) .quiet]

/-- A user who registers again after a logout gets a fresh salt: the same passphrase does not open
the database any more. -/
theorem passphrase_after_logout :
    (Run.after (step salting)
      (start Unit ⟨"http://localhost", "TLS", false, false⟩ ⟨none, none, 0⟩ .init)
      ((Sys.registers ++ Sys.typesPassphrase (salted 1 true) ++ registersAgain).map .act ++
        [.act (.key (.plain .enter) (salted 2 false))])).isSome ∧
    ¬Run.Along (step salting) (KeyAgrees salting)
      (start Unit ⟨"http://localhost", "TLS", false, false⟩ ⟨none, none, 0⟩ .init)
      ((Sys.registers ++ Sys.typesPassphrase (salted 1 true) ++ registersAgain).map .act ++
        [.act (.key (.plain .enter) (salted 2 false))]) := by
  refine ⟨rfl, fun h => ?_⟩
  have hv : (Run.after (step salting)
      (start Unit ⟨"http://localhost", "TLS", false, false⟩ ⟨none, none, 0⟩ .init)
      ((Sys.registers ++ Sys.typesPassphrase (salted 1 true) ++ registersAgain).map .act)).isSome :=
    rfl
  obtain ⟨hfile, -⟩ := h.at (Option.some_get hv).symm (some [2, 112]) (by decide +revert)
  have hcreated : (Option.get _ hv).file = some (some [1, 112]) := rfl
  rw [hcreated] at hfile
  revert hfile
  decide

end Vault

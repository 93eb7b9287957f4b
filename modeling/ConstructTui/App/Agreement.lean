import ConstructTui.App.Restore

/-!
# The session in memory and on disk

Whoever sees the chats or the settings has a session in memory, and the file should hold the same.
Between a registration and the choice of a passphrase it does not, but then neither screen shows.
The two come apart when a token refresh lands while there is nothing to write the file with, when an
accepted invite opens the chats before there is a saved session, and when a logout fails half way.

## Main definitions

* `Sys.Agrees`: the file decodes to the session in memory.
* `Sys.keepsAgreement`: the condition on a step.
* `Account.Keeps`: what holds while it is met.

## Main results

* `Sys.agrees_always`: in a run whose steps all meet the condition, memory and disk agree on these
  screens.
* `Sys.refresh_before_passphrase`: a run in which they do not.
-/

variable {ε : Type}

open Account

/-- The session that the file decodes to: with the key when there is one, as plain text
otherwise. -/
def Account.onDisk (A : Account) : Except String (Option Session) :=
  match A.sessionKey with
  | some sk => A.dir.loadSessionEncrypted sk
  | none => A.dir.loadSession

def Account.Agrees (A : Account) : Prop :=
  ∃ session, A.currentSession = some session ∧ A.onDisk = .ok (some session)

/-- The file decodes to the session in memory. -/
def Sys.Agrees (s : Sys ε) : Prop := s.account.Agrees

/-- Every file write of the step succeeds. -/
def Label.saves : Label ε → Bool
  | .startup ans | .key _ ans | .internal ans | .request _ _ ans | .finish _ _ ans =>
    ans.save = .saved
  | _ => true

/-- Removing the session file does not stop half way. -/
def ClearOutcome.whole : ClearOutcome → Bool
  | .cleared | .untouched _ => true
  | .overwritten _ => false

/-- The step is none of those that take memory and disk apart: refreshed tokens come while the file
can be written, an accepted invite comes to a saved session, and a logout does not fail half way. -/
def Sys.keepsAgreement (s : Sys ε) : Label ε → Bool
  | .internal _ =>
    match s.queue.head?.map Queued.event with
    | some (.tokenRefresh (.refreshed _ _ _)) =>
      s.app.sessionKey.isSome || s.app.noEncrypt || s.app.currentSession.isNone
    | some (.inviteAccepted _ _) => s.app.currentSession.isSome && s.app.pendingSession.isNone
    | _ => true
  | .key _ ans => ans.clear.whole
  | _ => true

/-- The session is saved, or there is none, or it waits for a passphrase. -/
inductive Account.Keeps (A : Account) : Prop
  | settled (session : Session) (hcurrent : A.currentSession = some session)
      (hdisk : A.onDisk = .ok (some session)) (hpending : A.pendingSession = none)
  | outside (hcurrent : A.currentSession = none) (hpending : A.pendingSession = none)
      (hscreen : A.screen.signedIn = false)
  | waiting (session : Session) (hcurrent : A.currentSession = some session)
      (hpending : A.pendingSession = some session) (hkey : A.sessionKey = none)
      (hencrypt : A.noEncrypt = false) (hscreen : A.screen.signedIn = false)
      (hunlock : A.screen ≠ .unlock)

/-! ### Reading the file back -/

namespace ConfigDir

theorem loadSessionEncrypted_sessionPath (sk : SessionKey) (d : ConfigDir) :
    d.sessionPath.loadSessionEncrypted sk = d.loadSessionEncrypted sk := by
  unfold loadSessionEncrypted
  rw [sessionPath_sessionPath]

/-- A saved session is read back under the same key. -/
theorem loadSessionEncrypted_saved (sk : SessionKey) (session : Session) (d : ConfigDir) :
    (d.saveFile (sessionFile session (some sk)) .saved).2.loadSessionEncrypted sk =
      .ok (some session) := by
  show (if sk.keys.session = sk.keys.session then .ok (some session)
    else .error "Decryption failed — wrong passphrase?" : Except String (Option Session)) = _
  rw [if_pos rfl]

/-- A sealed session does not depend on the key that opens it. -/
theorem loadSessionEncrypted_unique {d : ConfigDir} {sk sk' : SessionKey}
    {session session' : Session} (h : d.loadSessionEncrypted sk = .ok (some session))
    (h' : d.loadSessionEncrypted sk' = .ok (some session')) : session' = session := by
  unfold loadSessionEncrypted at h h'
  cases hfile : d.sessionPath.enc with
  | none =>
    rw [hfile] at h
    cases h
  | some file =>
    rw [hfile] at h h'
    cases file with
    | encrypted masterSalt content =>
      cases content with
      | none => cases h
      | some content =>
        dsimp only at h h'
        split at h
        · split at h'
          · cases h
            cases h'
            rfl
          · cases h'
        · cases h
    | plaintext _ => cases h
    | garbage => cases h

/-- What can be read as plain text is not sealed. -/
theorem loadSessionEncrypted_ne {d : ConfigDir} {sk : SessionKey} {session session' : Session}
    (h : d.loadSession = .ok (some session)) : d.loadSessionEncrypted sk ≠ .ok (some session') := by
  intro h'
  unfold loadSession at h
  unfold loadSessionEncrypted at h'
  cases hfile : d.sessionPath.enc with
  | none =>
    rw [hfile] at h
    cases h
  | some file =>
    rw [hfile] at h h'
    cases file with
    | encrypted masterSalt content => cases h
    | plaintext _ => cases h'
    | garbage => cases h

/-- A removal that does not stop half way, and fails, leaves the file as it was. -/
theorem clearSession_untouched {outcome : ClearOutcome} {d : ConfigDir} (hwhole : outcome.whole)
    (h : (d.clearSession outcome).1 ≠ .ok ()) : (d.clearSession outcome).2 = d.sessionPath := by
  unfold clearSession at h ⊢
  dsimp only at h ⊢
  split
  · rfl
  · next hfile =>
    rw [if_neg hfile] at h
    cases outcome with
    | cleared => exact absurd rfl h
    | untouched e => rfl
    | overwritten e => cases hwhole

end ConfigDir

namespace Account

variable {A B : Account}

theorem onDisk_sessionPath (A : Account) :
    onDisk { A with dir := A.dir.sessionPath } = A.onDisk := by
  unfold onDisk
  cases A.sessionKey with
  | none => exact ConfigDir.loadSession_sessionPath A.dir
  | some sk => exact ConfigDir.loadSessionEncrypted_sessionPath sk A.dir

/-- The file decodes to a session that was just saved. -/
theorem onDisk_saved (A : Account) (session : Session) :
    onDisk { A with
      dir := (A.dir.saveFile (ConfigDir.sessionFile session A.sessionKey) .saved).2 } =
      .ok (some session) := by
  unfold onDisk
  cases hkey : A.sessionKey with
  | none => exact ConfigDir.loadSession_saved session A.dir
  | some sk => exact ConfigDir.loadSessionEncrypted_saved sk session A.dir

/-- A key that opens the file shows the session it is known to hold. -/
theorem onDisk_unlocked {sk : SessionKey} {session session' : Session}
    (h : A.onDisk = .ok (some session))
    (hload : A.dir.loadSessionEncrypted sk = .ok (some session')) : session' = session := by
  unfold onDisk at h
  cases hkey : A.sessionKey with
  | none =>
    rw [hkey] at h
    exact absurd hload (ConfigDir.loadSessionEncrypted_ne h)
  | some sk' =>
    rw [hkey] at h
    exact ConfigDir.loadSessionEncrypted_unique h hload

/-- What is kept depends on the credentials, on what the file decodes to, and on few screens. -/
theorem Keeps.congr (h : A.Keeps) (hcurrent : B.currentSession = A.currentSession)
    (hpending : B.pendingSession = A.pendingSession) (hkey : B.sessionKey = A.sessionKey)
    (hencrypt : B.noEncrypt = A.noEncrypt) (hdisk : B.onDisk = A.onDisk)
    (hsigned : B.screen.signedIn → A.screen.signedIn)
    (hunlock : B.screen = .unlock → A.screen = .unlock ∨ A.sessionKey.isSome) : B.Keeps := by
  have hout (h : A.screen.signedIn = false) : B.screen.signedIn = false := by
    rw [← Bool.not_eq_true] at h ⊢
    exact mt hsigned h
  cases h with
  | settled session hc hd hp =>
    exact .settled session (hcurrent.trans hc) (hdisk.trans hd) (hpending.trans hp)
  | outside hc hp hs => exact .outside (hcurrent.trans hc) (hpending.trans hp) (hout hs)
  | waiting session hc hp hk he hs hu =>
    refine .waiting session (hcurrent.trans hc) (hpending.trans hp) (hkey.trans hk)
      (hencrypt.trans he) (hout hs) fun hscreen => ?_
    obtain h | h := hunlock hscreen
    · exact hu h
    · rw [hk] at h
      cases h

theorem Quiet.keeps (h : A.Quiet B) (hA : A.Keeps) : B.Keeps := by
  obtain ⟨hcurrent, hpending, hkey, hencrypt⟩ := h.creds
  refine hA.congr hcurrent hpending hkey hencrypt ?_ h.signedIn h.unlock
  have hdisk (d : ConfigDir) (hd : B.dir = d) : B.onDisk = onDisk { A with dir := d } := by
    unfold onDisk
    rw [hkey, hd]
  obtain h | h := h.dir
  · exact hdisk _ h
  · exact (hdisk _ h).trans (onDisk_sessionPath A)

end Account

namespace Sys

variable {E : AppExternals ε}

/-- Once nothing is being restored, a step that meets the condition keeps it up. -/
theorem Acts.keeps {s : Sys ε} {a : Label ε} {B : Account} (h : s.Acts E a B)
    (hkeeps : s.account.Keeps) (hsaves : a.saves) (hguard : s.keepsAgreement a) : B.Keeps := by
  have hhead {e : InternalEvent} {rest : List InternalEvent} (he : s.account.events = e :: rest) :
      s.queue.head?.map Queued.event = some e := by
    have h := congrArg List.head? he
    rwa [account, List.head?_map] at h
  have hsaved {ans : Answers ε} (h : decide (ans.save = .saved) = true) : ans.save = .saved :=
    of_decide_eq_true h
  have hpending (h : s.app.sessionKey.isSome ∨ s.app.noEncrypt) :
      s.app.pendingSession = none := by
    cases hkeeps with
    | settled session hc hd hp => exact hp
    | outside hc hp hs => exact hp
    | waiting session hc hp hk he hs hu =>
      have hk' : s.app.sessionKey = none := hk
      have he' : s.app.noEncrypt = false := he
      rw [hk', he'] at h
      obtain h | h := h <;> cases h
  cases h with
  | quiet h => exact h.keeps hkeeps
  | @saved ans m rest extra hevents hkey hsave hextra =>
    refine .settled m.fullSession rfl ?_ (hpending hkey)
    rw [hsave]
    exact onDisk_saved s.account m.fullSession
  | unsaved e hevents hkey hsave => exact absurd (hsaved hsaves) hsave
  | @waits ans m rest hevents hkey hencrypt =>
    exact .waiting m.fullSession rfl rfl hkey hencrypt rfl nofun
  | @refreshed ans accessToken refreshToken expiresAt rest session updated hevents hcurrent
      hupdated =>
    have hwrites : (s.app.sessionKey.isSome || s.app.noEncrypt) = true := by
      simpa [keepsAgreement, hhead hevents, hcurrent] using hguard
    refine .settled updated rfl ?_ (hpending (by simpa using hwrites))
    rw [if_pos hwrites, hsaved hsaves]
    exact onDisk_saved s.account updated
  | wakes hevents hcurrent => exact hkeeps.congr rfl rfl rfl rfl rfl id .inl
  | reauthenticates hevents hcurrent => exact hkeeps.congr rfl rfl rfl rfl rfl id .inl
  | invited hevents =>
    have hsettled : s.app.currentSession.isSome ∧ s.app.pendingSession = none := by
      simpa [keepsAgreement, hhead hevents] using hguard
    cases hkeeps with
    | settled session hc hd hp => exact .settled session hc hd hp
    | outside hc hp hs =>
      have hc' : s.app.currentSession = none := hc
      rw [hc'] at hsettled
      cases hsettled.1
    | waiting session hc hp hk he hs hu =>
      have hp' : s.app.pendingSession = some session := hp
      rw [hp'] at hsettled
      cases hsettled.2
  | @unlocked key ans passphrase sk session msg hscreen hopen hload =>
    cases hkeeps with
    | settled session' hc hd hp =>
      refine .settled session' hc ?_ hp
      rw [← onDisk_unlocked hd hload]
      exact (ConfigDir.loadSessionEncrypted_sessionPath sk s.dir).trans hload
    | outside hc hp hs => exact .outside hc hp rfl
    | waiting session' hc hp hk he hs hu => exact absurd hscreen hu
  | @sealed key ans session keys extra hscreen hkey htyped hpend hkeys hsave hextra =>
    cases hkeeps with
    | settled session' hc hd hp => cases hp.symm.trans hpend
    | outside hc hp hs => cases hp.symm.trans hpend
    | waiting session' hc hp hk he hs hu =>
      obtain rfl : session' = session := Option.some.inj (hp.symm.trans hpend)
      refine .settled session' hc ?_ rfl
      rw [hsave]
      exact ConfigDir.loadSessionEncrypted_saved _ session' s.dir
  | sealFailed hscreen hkey htyped hpend hkeys hsave => exact absurd (hsaved hsaves) hsave
  | loggedOut h => exact .outside rfl rfl rfl
  | stuck hscreen hclear =>
    rw [ConfigDir.clearSession_untouched hguard hclear]
    exact (Quiet.sessionPath s.account).keeps hkeeps
  | requested session' hr => exact hkeeps.congr rfl rfl rfl rfl rfl id .inl
  | ended hr h => exact hkeeps.congr rfl rfl rfl rfl rfl id .inl

/-- The restore is under way, or its result is kept up. -/
def Consistent (s : Sys ε) : Prop := s.Early ∨ s.account.Late ∧ s.account.Keeps

theorem Consistent.next {s s' : Sys ε} {a : Label ε} (h : s.Consistent)
    (hguard : a.saves ∧ s.keepsAgreement a) (hs : step E s a = some s') : s'.Consistent := by
  obtain hearly | ⟨hlate, hkeeps⟩ := h
  · cases hearly.next hs with
    | stays h hdir => exact .inl h
    | leaves hlate hcreds hscreen htasks hevents hdir =>
      exact .inr ⟨hlate, .outside hcreds.1 hcreds.2.1 hscreen⟩
    | restores ans m extra ha hqueue hsave hloaded hextra haccount =>
      rw [Consistent, haccount]
      refine .inr ⟨⟨fun r hr => ne_restore_of_plain (hextra r hr), nofun, nofun⟩,
        .settled m.fullSession rfl ?_ hearly.creds.2.1⟩
      have hkey : s.account.sessionKey = none := hearly.creds.2.2
      unfold onDisk
      dsimp only
      rw [hkey]
      exact hloaded
  · have hacts := acts hlate hs
    exact .inr ⟨hacts.late hlate, hacts.keeps hkeeps hguard.1 hguard.2⟩

theorem Consistent.agrees {s : Sys ε} (h : s.Consistent)
    (hscreen : s.app.screen = .main ∨ s.app.screen = .settings) : s.Agrees := by
  have hsigned : s.app.screen.signedIn = true := by
    obtain hs | hs := hscreen <;> rw [hs] <;> rfl
  obtain hearly | ⟨-, hkeeps⟩ := h
  · obtain hs | hs := hearly.stage.screen <;> (rw [hs] at hsigned; cases hsigned)
  · cases hkeeps with
    | settled session hc hd hp => exact ⟨session, hc, hd⟩
    | outside hc hp hs => cases hs.symm.trans hsigned
    | waiting session hc hp hk he hs hu => cases hs.symm.trans hsigned

/-- In every run in which file writes succeed and no step takes memory and disk apart, they agree
whenever the chats or the settings show. -/
theorem agrees_always (E : AppExternals ε) (cfg : AppConfig) (dir : ConfigDir) (db : Storage)
    (as : List (Label ε))
    (hsaves : Run.Along (step E) (fun _ a => a.saves) (start ε cfg dir db) as)
    (hguard : Run.Along (step E) (fun s a => s.keepsAgreement a) (start ε cfg dir db) as) :
    Run.Always (step E) (fun s => s.app.screen = .main ∨ s.app.screen = .settings → s.Agrees)
      (start ε cfg dir db) as :=
  (Run.always_of_along (fun _ _ _ hI hG hs => Consistent.next hI hG hs)
    (.inl (early_start cfg dir db)) (hsaves.and hguard)).mono fun _ => Consistent.agrees

theorem agrees_refreshed : Run.Always (step .quiet)
    (fun s => s.app.screen = .main ∨ s.app.screen = .settings → s.Agrees) fresh
      (registers ++ refreshes) :=
  agrees_always .quiet _ _ _ _ (by decide +revert) (by decide +revert)

/-! ### A refresh before the passphrase -/

/-- The tokens that a registration brought are refreshed before the passphrase is chosen. The file
then holds the old tokens. -/
theorem refresh_before_passphrase :
    Run.Along (step .quiet) (fun _ a => a.saves) encrypting
        (registers ++ refreshes ++ typesPassphrase .quiet) ∧
      ¬Run.Always (step .quiet) (fun s => s.app.screen = .main ∨ s.app.screen = .settings →
        s.Agrees) encrypting (registers ++ refreshes ++ typesPassphrase .quiet) := by
  have ht : (Run.after (step .quiet) encrypting
    (registers ++ refreshes ++ typesPassphrase .quiet)).isSome := rfl
  refine ⟨by decide +revert, fun h => ?_⟩
  obtain ⟨session, hcurrent, hdisk⟩ :=
    h _ _ (List.prefix_refl _) (Option.some_get ht).symm (.inl rfl)
  have hmemory : (Option.get _ ht).app.currentSession.map Session.refreshToken = some "refresh2" :=
    rfl
  have hfile : (Option.get _ ht).account.onDisk.toOption.map (Option.map Session.refreshToken) =
      some (some "refresh1") := rfl
  have hcurrent' : (Option.get _ ht).app.currentSession = some session := hcurrent
  rw [hcurrent'] at hmemory
  rw [hdisk] at hfile
  have hmemory' : session.refreshToken = "refresh2" := Option.some.inj hmemory
  have hfile' : session.refreshToken = "refresh1" := Option.some.inj (Option.some.inj hfile)
  exact absurd (hmemory'.symm.trans hfile') (by decide)

end Sys

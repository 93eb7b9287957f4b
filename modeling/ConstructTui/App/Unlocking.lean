import ConstructTui.App.Restore

/-!
# The unlock screen

A client that keeps its session sealed asks for the passphrase right after its start, and again when
an authentication fails once it has a key. At the start nothing else goes on. Later there may be
tasks under way, and what they tell the app can open the chats without a passphrase.

## Main definitions

* `Sys.unlocks`: the typed passphrase opens the session on disk.
* `Sys.admits`: the app takes an event that opens the chats.
* `Sys.Asleep`: the client asks for the passphrase, and nothing else goes on.
* `Sys.Barred`, `Sys.Locked`: what holds throughout, and until the passphrase is given.

## Main results

* `Sys.Acts.locked`, `Sys.Locked.signedIn_of_admits`: what opens the chats without a passphrase.
* `Sys.locked_until_unlocked_iff`: the chats stay closed until the passphrase is given in exactly
  the runs in which no such event is taken before.
* `Sys.unlock_bypassed`: a run in which one is.
-/

variable {ε : Type} {E : AppExternals ε} {ans : Answers ε}

namespace Account

/-- A session is not kept waiting for a passphrase while there is a key, and the unlock screen shows
with a key only. -/
def Keyed (A : Account) : Prop :=
  (A.sessionKey.isSome → A.pendingSession = none) ∧ (A.screen = .unlock → A.sessionKey.isSome)

theorem Keyed.congr {A B : Account} (h : A.Keyed) (hkey : B.sessionKey = A.sessionKey)
    (hpending : B.pendingSession = A.pendingSession)
    (hunlock : B.screen = .unlock → A.screen = .unlock ∨ A.sessionKey.isSome) : B.Keyed := by
  refine ⟨fun hB => ?_, fun hB => ?_⟩
  · rw [hpending]
    exact h.1 (hkey ▸ hB)
  · rw [hkey]
    exact (hunlock hB).elim h.2 id

end Account

namespace Sys

/-- The user enters a passphrase that opens the session on disk. -/
def unlocks (E : AppExternals ε) (s : Sys ε) : Label ε → Bool
  | .key key ans =>
    let passphrase := s.app.unlockScreen.takePassphrase.1
    s.app.screen = .unlock && key.isPress && key.code = .enter && !passphrase.isEmpty &&
      ans.readable && match s.dir.openSessionKey E.deriveKeys passphrase with
        | .ok (some sk) =>
          match s.dir.loadSessionEncrypted sk with
          | .ok (some _) => true
          | _ => false
        | _ => false
  | _ => false

/-- The app takes an event that opens the chats: an invite was accepted, or an authentication
succeeded and its session can be saved. -/
def admits (s : Sys ε) : Label ε → Bool
  | .internal ans => match s.queue.head?.map Queued.event with
    | some (.inviteAccepted _ _) => true
    | some (.auth (.success _)) => ans.save = .saved
    | _ => false
  | _ => false

/-! ### Right after the start -/

/-- The client asks for the passphrase, and nothing else goes on. -/
structure Asleep (s : Sys ε) : Prop where
  screen : s.app.screen = .unlock
  tasks : s.tasks = []
  queue : s.queue = []
  pipelines : s.pipelines = []
  ticking : s.app.ticking = false

/-- The unlock screen has been passed. -/
structure Passed (s s' : Sys ε) : Prop where
  key : s'.app.sessionKey.isSome
  pending : s'.app.pendingSession = s.app.pendingSession
  screen : s'.app.screen ≠ .unlock

variable (ans) in
/-- A passphrase opens the session on disk, or the client still asks for it. -/
theorem opens_or_asks (passphrase : Bytes) (s : Sys ε) :
    (ans.readable ∧ (∃ sk session, s.dir.openSessionKey E.deriveKeys passphrase = .ok (some sk) ∧
      s.dir.loadSessionEncrypted sk = .ok (some session)) ∧
        s.Passed (App.unlock E ans passphrase s)) ∨
      ∃ unlockScreen dir, App.unlock E ans passphrase s =
        { s.modApp fun a => { a with unlockScreen := unlockScreen } with dir := dir } := by
  unfold App.unlock
  dsimp only
  by_cases hread : ans.readable = true
  · rw [if_neg (by simpa using hread)]
    cases hopen : s.dir.openSessionKey E.deriveKeys passphrase with
    | error e => exact .inr ⟨_, _, rfl⟩
    | ok found =>
      cases found with
      | none => exact .inr ⟨_, _, rfl⟩
      | some sk =>
        dsimp only
        cases hload : s.dir.loadSessionEncrypted sk with
        | error e => exact .inr ⟨_, _, rfl⟩
        | ok loaded =>
          cases loaded with
          | none => exact .inr ⟨_, _, rfl⟩
          | some session => exact .inl ⟨hread, ⟨sk, session, rfl, hload⟩, ⟨rfl, rfl, nofun⟩⟩
  · rw [if_pos (by simpa using hread)]
    exact .inr ⟨_, _, rfl⟩

variable (ans) in
/-- What a key does on the unlock screen: the passphrase is right, or the client still asks for
it. -/
theorem unlocks_or_asks {s : Sys ε} (hscreen : s.app.screen = .unlock) {key : KeyEvent}
    (hpress : key.isPress) :
    s.unlocks E (.key key ans) ∧ s.Passed (App.handleUnlock E ans key s) ∨
      ∃ unlockScreen dir, App.handleUnlock E ans key s =
        { s.modApp fun a => { a with unlockScreen := unlockScreen } with dir := dir } := by
  unfold App.handleUnlock
  cases hcode : key.code with
  | enter =>
    let t : Sys ε := s.modApp fun a =>
      { a with unlockScreen := s.app.unlockScreen.takePassphrase.2 }
    dsimp only
    by_cases htyped : s.app.unlockScreen.takePassphrase.1.isEmpty = true
    · rw [if_pos htyped]
      exact .inr ⟨_, s.dir, rfl⟩
    · rw [if_neg htyped]
      obtain ⟨hread, ⟨sk, session, hopen, hload⟩, hpassed⟩ | ⟨unlockScreen, dir, heq⟩ :=
        opens_or_asks (E := E) ans s.app.unlockScreen.takePassphrase.1 t
      · refine .inl ⟨?_, hpassed.key, hpassed.pending, hpassed.screen⟩
        have hopen' : s.dir.openSessionKey E.deriveKeys s.app.unlockScreen.takePassphrase.1 =
          .ok (some sk) := hopen
        have hload' : s.dir.loadSessionEncrypted sk = .ok (some session) := hload
        simp [unlocks, hscreen, hpress, hcode, htyped, hread, hopen', hload']
      · exact .inr ⟨unlockScreen, dir, heq⟩
  | backspace => exact .inr ⟨_, s.dir, rfl⟩
  | char c => exact .inr ⟨_, s.dir, rfl⟩
  | _ => exact .inr ⟨s.app.unlockScreen, s.dir, rfl⟩

/-- The client goes on asking until the passphrase is given. -/
theorem Asleep.next {s s' : Sys ε} {a : Label ε} (h : s.Asleep) (hs : step E s a = some s') :
    s.unlocks E a ∧ s.Passed s' ∨ s'.Asleep ∧ s'.app.sessionKey = s.app.sessionKey ∧
      s'.app.pendingSession = s.app.pendingSession := by
  have hpipeline {i : ℕ} {p : Pipeline ε} (hp : s.pipelines[i]? = some p) : False := by
    rw [h.pipelines] at hp
    cases hp
  have htask {k : ℕ} {r : Running} (hr : s.tasks[k]? = some r) : False := by
    rw [h.tasks] at hr
    cases hr
  cases stepped hs with
  | @key key ans =>
    unfold App.handleEvent
    by_cases hpress : key.isPress = true
    · by_cases hctrl : (key.code = .char 'c' && key.modifiers = .control) = true
      · simp only [hpress, hctrl]
        exact .inr ⟨⟨h.screen, h.tasks, h.queue, h.pipelines, h.ticking⟩, rfl, rfl⟩
      · simp only [hpress, hctrl, Bool.not_true, Bool.false_eq_true, if_false, h.screen]
        obtain hunlocks | ⟨unlockScreen, dir, heq⟩ :=
          unlocks_or_asks (E := E) ans h.screen hpress
        · exact .inl hunlocks
        · rw [heq]
          exact .inr ⟨⟨h.screen, h.tasks, h.queue, h.pipelines, h.ticking⟩, rfl, rfl⟩
    · simp only [hpress]
      exact .inr ⟨h, rfl, rfl⟩
  | startup hscreen => cases hscreen.symm.trans h.screen
  | internal _ hqueue => cases hqueue.symm.trans h.queue
  | tick hticking => cases hticking.symm.trans h.ticking
  | registrationStep hr | request hr | finish hr => exact (htask hr).elim
  | worker hp | relay hp | take hp | orchestrator hp | subTask hp => exact (hpipeline hp).elim

/-- Throughout a run, a session is not kept waiting for a passphrase while there is a key or the
unlock screen shows, and the unlock screen shows with a key or right after the start. -/
structure Barred (s : Sys ε) : Prop where
  late : s.account.Late
  pending : s.app.sessionKey.isSome ∨ s.app.screen = .unlock → s.app.pendingSession = none
  unlock : s.app.screen = .unlock → s.app.sessionKey.isSome ∨ s.Asleep

/-- Every step keeps that up. -/
theorem Acts.keyed {s : Sys ε} {a : Label ε} {B : Account} (h : s.Acts E a B)
    (hs : s.account.Keyed) : B.Keyed := by
  cases h with
  | quiet h => exact hs.congr h.creds.2.2.1 h.creds.2.1 h.unlock
  | saved | unsaved | invited => exact hs.congr rfl rfl nofun
  | waits hevents hkey hencrypt =>
    refine ⟨fun hB => ?_, nofun⟩
    have hB' : s.app.sessionKey.isSome = true := hB
    rw [hkey] at hB'
    cases hB'
  | unlocked msg hscreen hopen hload => exact ⟨fun _ => hs.1 (hs.2 hscreen), nofun⟩
  | sealed => exact ⟨fun _ => rfl, nofun⟩
  | loggedOut => exact ⟨nofun, nofun⟩
  | refreshed | wakes | reauthenticates | sealFailed | stuck | requested | ended =>
    exact hs.congr rfl rfl .inl

/-- Once nothing is being restored, every step keeps that up. -/
theorem Barred.next {s s' : Sys ε} {a : Label ε} (h : s.Barred) (hs : step E s a = some s') :
    s'.Barred := by
  have hacts := acts h.late hs
  have hlate := hacts.late h.late
  by_cases hasleep : s.Asleep
  · have hnone := h.pending (.inr hasleep.screen)
    obtain ⟨-, hpassed⟩ | ⟨hasleep', hkey, hpending⟩ := hasleep.next hs
    · exact ⟨hlate, fun _ => hpassed.pending.trans hnone, fun hs' => absurd hs' hpassed.screen⟩
    · exact ⟨hlate, fun _ => hpending.trans hnone, fun _ => .inr hasleep'⟩
  · have hkeyed : s.account.Keyed :=
      ⟨fun hkey => h.pending (.inl hkey), fun hs' => (h.unlock hs').resolve_right hasleep⟩
    obtain ⟨hpending, hunlock⟩ := hacts.keyed hkeyed
    exact ⟨hlate, fun hs' => hpending (hs'.elim id hunlock), fun hs' => .inl (hunlock hs')⟩

/-- While a session may be restored, only the start shows the unlock screen. -/
theorem Early.asleep {s s' : Sys ε} {a : Label ε} (h : s.Early) (hs : step E s a = some s')
    (hunlock : s'.app.screen = .unlock) : s'.Asleep := by
  have hnot {t : Sys ε} (ht : t.Stage) (heq : t.app.screen = s'.app.screen) : s'.Asleep := by
    obtain hscreen | hscreen := ht.screen <;> cases hscreen.symm.trans (heq.trans hunlock)
  by_cases happ : a.ofApp = true
  · cases stepped hs with
    | startup hscreen =>
      cases h.stage with
      | starting _ htasks hqueue =>
        unfold App.startupCheck at hunlock ⊢
        dsimp only at hunlock ⊢
        split at hunlock
        · exact ⟨rfl, htasks, hqueue, h.idle.2, h.idle.1⟩
        · cases hunlock
        · cases hunlock
      | restoring _ hs' => cases hscreen.symm.trans hs'
      | restored _ hs' => cases hscreen.symm.trans hs'
    | @key key ans => exact hnot (h.key E ans key).1.stage rfl
    | @internal ans q queue _ hqueue =>
      obtain ⟨m, extra, -, -, -, -, heq⟩ := h.internal E ans hqueue
      cases (congrArg Account.screen heq).symm.trans hunlock
    | _ => cases happ
  · exact hnot h.stage (congrArg App.screen (app_of_beside (Bool.not_eq_true _ ▸ happ) hs)).symm

/-- So does every step before. -/
theorem Early.barred {s s' : Sys ε} {a : Label ε} (h : s.Early) (hs : step E s a = some s') :
    s'.Early ∨ s'.Barred := by
  cases h.next hs with
  | stays h hdir => exact .inl h
  | leaves hlate hcreds hscreen htasks hevents hdir =>
    exact .inr ⟨hlate, fun _ => hcreds.2.1, fun hunlock => .inr (h.asleep hs hunlock)⟩
  | restores ans m extra ha hqueue hsave hloaded hextra haccount =>
    have hscreen : s'.app.screen = .main := congrArg Account.screen haccount
    have hpending : s'.app.pendingSession = none :=
      (congrArg Account.pendingSession haccount).trans h.creds.2.1
    refine .inr ⟨?_, fun _ => hpending, fun hunlock => ?_⟩
    · rw [haccount]
      exact ⟨fun r hr => ne_restore_of_plain (hextra r hr), nofun, nofun⟩
    · cases hscreen.symm.trans hunlock

/-- In every state that shows the unlock screen there is a key, or the client has just been
started. -/
theorem barred_of_unlock {cfg : AppConfig} {dir : ConfigDir} {db : Storage} {as : List (Label ε)}
    {s : Sys ε} (h : Run.after (step E) (start ε cfg dir db) as = some s)
    (hunlock : s.app.screen = .unlock) : s.Barred := by
  have hstep (s : Sys ε) (a : Label ε) (s' : Sys ε) (h : s.Early ∨ s.Barred)
      (hs : step E s a = some s') : s'.Early ∨ s'.Barred := by
    obtain h | h := h
    · exact h.barred hs
    · exact .inr (h.next hs)
  obtain hearly | hbarred := Run.invariant hstep (.inl (early_start cfg dir db)) h
  · obtain hscreen | hscreen := hearly.stage.screen <;> cases hscreen.symm.trans hunlock
  · exact hbarred

/-! ### Until the passphrase is given -/

/-- The chats are closed, and there is a key or nothing else goes on. -/
structure Locked (s : Sys ε) : Prop where
  late : s.account.Late
  closed : s.app.screen.signedIn = false
  pending : s.app.pendingSession = none
  keyed : s.app.sessionKey.isSome ∨ s.Asleep

theorem Barred.locked {s : Sys ε} (h : s.Barred) (hunlock : s.app.screen = .unlock) : s.Locked where
  late := h.late
  closed := by rw [hunlock]; rfl
  pending := h.pending (.inr hunlock)
  keyed := h.unlock hunlock

/-- With a key, only the events that open the chats open them, and the key stays. -/
theorem Acts.locked {s : Sys ε} {a : Label ε} {B : Account} (h : s.Acts E a B)
    (hclosed : s.app.screen.signedIn = false) (hpending : s.app.pendingSession = none)
    (hkey : s.app.sessionKey.isSome) (hadmits : s.admits a = false) :
    B.screen.signedIn = false ∧ B.pendingSession = none ∧ B.sessionKey.isSome := by
  have hhead {e : InternalEvent} {rest : List InternalEvent} (he : s.account.events = e :: rest) :
      s.queue.head?.map Queued.event = some e := by
    have h := congrArg List.head? he
    rwa [account, List.head?_map] at h
  have hsettings (hscreen : s.app.screen = .settings) : False := by
    rw [hscreen] at hclosed
    cases hclosed
  cases h with
  | quiet h =>
    refine ⟨?_, h.creds.2.1.trans hpending, h.creds.2.2.1 ▸ hkey⟩
    rw [← Bool.not_eq_true] at hclosed ⊢
    exact mt h.signedIn hclosed
  | saved hevents hkey' hsave hextra =>
    simp [admits, hhead hevents, hsave] at hadmits
  | unsaved e hevents hkey' hsave => exact ⟨rfl, hpending, hkey⟩
  | waits hevents hnone hencrypt =>
    rw [hnone] at hkey
    cases hkey
  | invited hevents => simp [admits, hhead hevents] at hadmits
  | unlocked => exact ⟨rfl, hpending, rfl⟩
  | sealed hscreen hcode htyped hpend hkeys hsave hextra => cases hpending.symm.trans hpend
  | sealFailed hscreen hcode htyped hpend hkeys hsave => cases hpending.symm.trans hpend
  | loggedOut h => exact (hsettings h.1).elim
  | stuck hscreen => exact (hsettings hscreen).elim
  | refreshed | wakes | reauthenticates | requested | ended => exact ⟨hclosed, hpending, hkey⟩

theorem Locked.next {s s' : Sys ε} {a : Label ε} (h : s.Locked) (hs : step E s a = some s')
    (hunlocks : ¬s.unlocks E a) (hadmits : s.admits a = false) : s'.Locked := by
  have hacts := acts h.late hs
  have hlate := hacts.late h.late
  obtain hkey | hasleep := h.keyed
  · obtain ⟨hclosed, hpending, hkey'⟩ := hacts.locked h.closed h.pending hkey hadmits
    exact ⟨hlate, hclosed, hpending, .inl hkey'⟩
  · obtain ⟨hunlocks', -⟩ | ⟨hasleep', -, hpending⟩ := hasleep.next hs
    · exact absurd hunlocks' hunlocks
    · exact ⟨hlate, by rw [hasleep'.screen]; rfl, hpending.trans h.pending, .inr hasleep'⟩

/-- An event that opens the chats opens them. -/
theorem Locked.signedIn_of_admits {s s' : Sys ε} {a : Label ε} (h : s.Locked)
    (hs : step E s a = some s') (hadmits : s.admits a) : s'.app.screen.signedIn := by
  cases stepped hs with
  | @internal ans q queue _ hqueue =>
    let u : Sys ε := { s with queue := queue }
    obtain ⟨event, gone⟩ := q
    unfold admits at hadmits
    rw [hqueue] at hadmits
    have hmain {t : Sys ε} {A : Account} (ht : t.account = { A with screen := .main }) :
        t.app.screen.signedIn := by
      rw [show t.app.screen = .main from congrArg Account.screen ht]
      rfl
    cases event with
    | inviteAccepted userId username =>
      exact hmain (App.account_finishAddContact ans userId username u)
    | auth msg =>
      cases msg with
      | failure msg => cases hadmits
      | success m =>
        obtain ⟨v, hv, heq⟩ := App.handleInternal_auth E ans (.success m) gone u
        have hevents : s.account.events = .auth (.success m) :: u.account.events :=
          congrArg (List.map Queued.event) hqueue
        have hsave : m.pendingSave = some m.fullSession :=
          h.late.events m (hevents ▸ List.mem_cons_self)
        have hkey : s.app.sessionKey.isSome := by
          obtain hkey | hasleep := h.keyed
          · exact hkey
          · cases hasleep.queue.symm.trans hqueue
        have hadopted := account_adopted (s := s) m (hv.account.trans (show u.account =
          { s.account with events := u.account.events } from rfl))
        rw [heq, handleAuthMsg_success hsave]
        generalize App.startTokenRefresh m.fullSession (App.adoptSession m v) = w at hadopted ⊢
        have hkey' : (w.app.sessionKey.isSome || w.app.noEncrypt) = true := by
          rw [show w.app.sessionKey = s.app.sessionKey from congrArg Account.sessionKey hadopted,
            hkey, Bool.true_or]
        obtain ⟨extra, -, hsaved⟩ := App.account_saved E ans m m.fullSession hkey'
          (of_decide_eq_true hadmits)
        rw [show (App.saveAndEnter E ans m m.fullSession w).app.screen = .main from
          congrArg Account.screen hsaved]
        rfl
    | _ => cases hadmits
  | _ => cases hadmits

/-- **The unlock screen.** In every run from a state that shows the unlock screen, the chats stay
closed until the user enters a passphrase that opens the session on disk, if and only if until then
the app takes no event of an accepted invite, and none of a successful authentication whose session
it saves. -/
theorem locked_until_unlocked_iff {cfg : AppConfig} {dir : ConfigDir} {db : Storage}
    {before as : List (Label ε)} {s t : Sys ε}
    (hs : Run.after (step E) (start ε cfg dir db) before = some s)
    (hunlock : s.app.screen = .unlock) (ht : Run.after (step E) s as = some t) :
    Run.AlwaysUntil (step E) (fun u a => u.unlocks E a) (fun u => u.app.screen.signedIn = false)
        s as ↔
      Run.AlongUntil (step E) (fun u a => u.unlocks E a) (fun u a => u.admits a = false) s as := by
  refine Run.alwaysUntil_iff_alongUntil (I := Locked) (fun _ h => h.closed)
    (fun _ _ _ h hunlocks hstep hadmits => h.next hstep hunlocks hadmits)
    (fun u a u' h _ hstep hclosed => ?_) ((barred_of_unlock hs hunlock).locked hunlock) ht
  rw [← Bool.not_eq_true]
  intro hadmits
  cases hclosed.symm.trans (h.signedIn_of_admits hstep hadmits)

/-! ### An authentication that was under way -/

/-- The user registers and chooses a passphrase. The refresh token is rejected, the authentication
with the key of the device fails, and a key press brings up the unlock screen. -/
def locks : List (Label Unit) :=
  registers ++ typesPassphrase .quiet ++ reauthenticates.take 4 ++
    [.finish 0 (.failed "unreachable") .quiet, .internal .quiet, presses ' ']

/-- The user enters the passphrase, and the session is authenticated. -/
def opensAgain : List (Label Unit) :=
  typesPassphrase .quiet ++ [.request 0 .zeros .quiet,
    .finish 0 (.tokens "me" "access2" "refresh2" 200) .quiet, .internal .quiet]

/-- The stream is told to authenticate, and now the key of the device is accepted. -/
def bypasses : List (Label Unit) :=
  [.worker 0 (.polled .empty), .worker 0 (.invalidated none),
    .worker 0 (.openEnded .unauthenticated), .relay 0, .internal .quiet] ++ reauthenticates

/-- A client that is locked, after some steps. -/
def shutOut (as : List (Label Unit)) : Sys Unit := Run.ending (step .quiet) encrypting (locks ++ as)

theorem locked_until_passphrase :
    Run.AlwaysUntil (step .quiet) (fun u a => u.unlocks .quiet a)
      (fun u => u.app.screen.signedIn = false) (shutOut []) opensAgain := by
  have hs : Run.after (step .quiet) encrypting locks = some (shutOut []) :=
    Run.after_ending_nil (by decide +kernel)
  have ht : Run.after (step .quiet) (shutOut []) opensAgain = some (shutOut opensAgain) :=
    Run.after_ending (by decide +kernel)
  exact (locked_until_unlocked_iff hs (by decide +kernel) ht).mpr (by decide +kernel)

/-- The client is locked, the stream makes it authenticate again, and the chats open although nobody
has entered a passphrase. -/
theorem unlock_bypassed : ∃ s t, Run.after (step .quiet) encrypting locks = some s ∧
    s.app.screen = .unlock ∧ Run.after (step .quiet) s bypasses = some t ∧ t.app.screen = .main ∧
    ¬Run.Passes (step .quiet) (fun u a => u.unlocks .quiet a) s bypasses ∧
    ¬Run.AlwaysUntil (step .quiet) (fun u a => u.unlocks .quiet a)
      (fun u => u.app.screen.signedIn = false) s bypasses := by
  have ht : Run.after (step .quiet) (shutOut []) bypasses = some (shutOut bypasses) :=
    Run.after_ending (by decide +kernel)
  have hmain : (shutOut bypasses).app.screen = .main := by decide +kernel
  have hpasses : ¬Run.Passes (step .quiet) (fun u a => u.unlocks .quiet a) (shutOut [])
      bypasses := by decide +kernel
  refine ⟨_, _, Run.after_ending_nil (by decide +kernel), by decide +kernel, ht, hmain, hpasses,
    fun h => ?_⟩
  obtain hclosed | hpassed := h _ _ (List.prefix_refl _) ht
  · rw [hmain] at hclosed
    cases hclosed
  · exact hpasses hpassed

end Sys

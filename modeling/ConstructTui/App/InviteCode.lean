import ConstructTui.App.Credentials
import ConstructTui.Invite.Payload
import ConstructTui.Lib.Fifo

/-!
# The identity code on screen

The client draws its screens whenever something has happened. On the identity code, and beside the
settings on a wide terminal, that asks the settings for the link of an invite; on the code the link
is shown. New settings, after signing in or out, begin without a link.

## Main definitions

* `Sys.resetsSettings`: the steps that make the settings anew.
* `Showing`: the client with the link its settings keep; `Showing.step`: its steps and its drawings.

## Main results

* `Sys.badge_stepOrRestart`: no other step changes what invites are made with.
* `Showing.invite_shown_fresh`: the code on screen is a fresh invite of the account.
-/

variable {ε : Type} {E : AppExternals ε}

/-- The authentication has succeeded. -/
def InternalEvent.signsIn : InternalEvent → Bool
  | .auth (.success _) => true
  | _ => false

namespace Sys

/-- The step makes the settings anew. -/
def resetsSettings (s : Sys ε) : VaultLabel ε → Bool
  | .restart _ => true
  | .act (.key key ans) => decide (LogsOut ans s (.key key))
  | .act (.internal _) => s.queue.head?.any fun q => q.event.signsIn
  | .act _ => false

theorem badge_handleInternal {s : Sys ε} {event : InternalEvent} (ans : Answers ε) (gone : Bool)
    (h : event.signsIn = false) :
    (App.handleInternal E ans event gone s).app.settingsScreen.badge =
      s.app.settingsScreen.badge := by
  cases hbrings : event.bringsTokens with
  | false => exact congrArg Keyring.badge (App.retains_handleInternal E ans hbrings gone s).keyring
  | true =>
    cases event with
    | auth msg =>
      cases msg with
      | success m => cases h
      | failure msg => cases hbrings
    | tokenRefresh msg =>
      cases msg with
      | refreshed accessToken refreshToken expiresAt =>
        exact congrArg Keyring.badge
          (App.adopts_refreshed E ans accessToken refreshToken expiresAt s).keyring
      | _ => cases hbrings
    | _ => cases hbrings

/-- No other step changes what invites are made with. -/
theorem badge_stepOrRestart {s s' : Sys ε} {l : VaultLabel ε} (h : stepOrRestart E s l = some s')
    (hresets : s.resetsSettings l = false) :
    s'.app.settingsScreen.badge = s.app.settingsScreen.badge := by
  cases l with
  | restart cfg => cases hresets
  | act a =>
    have hstep : step E s a = some s' := h
    cases happ : a.ofApp with
    | false => exact congrArg Keyring.badge (keyring_step hstep happ)
    | true =>
      cases stepped hstep with
      | startup => exact congrArg Keyring.badge (App.retains_startupCheck E _ s).keyring
      | @key key ans =>
        obtain hretains | ⟨hout, -⟩ := App.signs_handleEvent E ans key s
        · exact congrArg Keyring.badge hretains.keyring
        · exact absurd hout (of_decide_eq_false hresets)
      | @internal ans q queue _ hqueue =>
        refine badge_handleInternal (s := { s with queue := queue }) ans q.gone ?_
        simpa [resetsSettings, hqueue] using hresets
      | _ => cases happ

end Sys

/-- The client, and the link that its settings keep with the time it was made. -/
structure Showing (ε : Type) where
  sys : Sys ε
  cache : Option (String × ℕ)

/-- A step of the client, or the screen is drawn; `wide` is a terminal of 100 columns or more. -/
inductive ShowLabel (ε : Type)
  | run (l : VaultLabel ε)
  | draw (now : Moment) (jti : UuidBytes) (wide : Bool)

namespace Showing

open SettingsScreen Invite

variable (E : AppExternals ε) (L : InviteLibs)

/-- The link that is kept after the screen has been drawn. -/
def drawn (d : Showing ε) (now : Moment) (jti : UuidBytes) (wide : Bool) : Option (String × ℕ) :=
  if d.sys.app.screen = .identityQr ∨ d.sys.app.screen = .settings ∧ wide then
    d.sys.app.settingsScreen.invitePayload L now jti d.cache
  else d.cache

/-- The link that is on screen. -/
def shown (d : Showing ε) (now : Moment) (jti : UuidBytes) (wide : Bool) : Option String :=
  if d.sys.app.screen = .identityQr then (d.drawn L now jti wide).map Prod.fst else none

def start (cfg : AppConfig) (dir : ConfigDir) (db : Storage) : Showing ε :=
  ⟨.start ε cfg dir db, none⟩

def step (d : Showing ε) : ShowLabel ε → Option (Showing ε)
  | .run l => (Sys.stepOrRestart E d.sys l).map fun s =>
    ⟨s, if d.sys.resetsSettings l then none else d.cache⟩
  | .draw now jti wide => some { d with cache := d.drawn L now jti wide }

/-- When the screen is drawn. -/
def drawings (_ : Showing ε) : ShowLabel ε → List Moment
  | .run _ => []
  | .draw now _ _ => [now]

variable {E L}

theorem kept_of_badge {made : List Moment} {p p' : SettingsScreen} {cache : Option (String × ℕ)}
    (h : Kept L made p cache) (hbadge : p'.badge = p.badge) : Kept L made p' cache := by
  obtain ⟨hserver, hdevice, huser, hkey⟩ : p'.server = p.server ∧ p'.deviceId = p.deviceId ∧
      p'.userId = p.userId ∧ p'.signingKeyHex = p.signingKeyHex := by
    simpa [badge] using hbadge
  unfold Kept
  rw [hserver, hdevice, huser, hkey]
  exact h

theorem kept_drawn {made : List Moment} {d : Showing ε}
    (h : Kept L made d.sys.app.settingsScreen d.cache) (now : Moment) (jti : UuidBytes)
    (wide : Bool) : Kept L (made ++ [now]) d.sys.app.settingsScreen (d.drawn L now jti wide) := by
  unfold drawn
  split
  · exact h.invitePayload now jti
  · intro payload instant hcache
    obtain ⟨hkey, huser, m, hm, hmade⟩ := h payload instant hcache
    exact ⟨hkey, huser, m, List.mem_append_left _ hm, hmade⟩

/-- The link that is kept was made for the account, at one of the drawings. -/
theorem kept_step {made : List Moment} {d d' : Showing ε} {l : ShowLabel ε}
    (hd : d.sys.Coherent ∧ Kept L made d.sys.app.settingsScreen d.cache)
    (h : step E L d l = some d') : d'.sys.Coherent ∧
      Kept L (made ++ d.drawings l) d'.sys.app.settingsScreen d'.cache := by
  cases l with
  | run l =>
    obtain ⟨s, hs, rfl⟩ := Option.map_eq_some_iff.mp h
    refine ⟨Sys.coherent_stepOrRestart hd.1 hs, ?_⟩
    rw [drawings, List.append_nil]
    cases hresets : d.sys.resetsSettings l with
    | true => exact kept_none
    | false => exact kept_of_badge hd.2 (Sys.badge_stepOrRestart hs hresets)
  | draw now jti wide =>
    obtain rfl := Option.some.inj h
    exact ⟨hd.1, kept_drawn hd.2 now jti wide⟩

theorem kept_after (made : List Moment) {d d' : Showing ε} {ls : List (ShowLabel ε)}
    (hd : d.sys.Coherent ∧ Kept L made d.sys.app.settingsScreen d.cache)
    (h : Run.after (step E L) d ls = some d') : d'.sys.Coherent ∧
      Kept L (made ++ Run.output (step E L) drawings d ls) d'.sys.app.settingsScreen d'.cache :=
  Run.output_invariant
    (I := fun made d => d.sys.Coherent ∧ Kept L made d.sys.app.settingsScreen d.cache)
    (fun _ _ _ _ hI hstep => kept_step hI hstep) hd h

/-- **The identity code on screen is a fresh invite of the account.** In every run, through
restarts, logins and logouts and whenever the screen is drawn, a link that is shown is the one of an
invite that was minted less than four minutes before, at one of the drawings, for the user who is
signed in, with the device and the key of the session; and if the clock on the wall has gone no
further, the invite has a minute left. -/
theorem invite_shown_fresh (hsigns : L.Signs) {cfg : AppConfig} {dir : ConfigDir} {db : Storage}
    {ls : List (ShowLabel ε)} {d : Showing ε}
    (h : Run.after (step E L) (start cfg dir db) ls = some d) {now : Moment} {jti : UuidBytes}
    {wide : Bool} {payload : String} (hclock : 0 ≤ nowUnix now.clock)
    (hshown : d.shown L now jti wide = some payload) :
    ∃ session, d.sys.app.currentSession = some session ∧
      ∃ m ∈ Run.output (step E L) drawings (start cfg dir db) ls ++ [now],
        now.instant - m.instant < refreshNanos ∧ ∃ jti' i,
          mint L d.sys.app.userId session.deviceId d.sys.app.serverUrl session.signingKeyHex none
            300 jti' m.clock = .ok i ∧
          httpsLink L i = .ok payload ∧
          (nowUnix now.clock ≤ nowUnix m.clock + 240 →
            ∀ t ≤ nowUnix now.clock + 60, ¬i.isExpired t) := by
  obtain ⟨hcoherent, hkept⟩ := kept_after [] ⟨Sys.coherent_start cfg dir db, kept_none⟩ h
  rw [List.nil_append] at hkept
  rw [shown, Option.ite_none_right_eq_some] at hshown
  obtain ⟨hscreen, hshown⟩ := hshown
  obtain ⟨⟨payload', instant⟩, hdrawn, rfl⟩ := Option.map_eq_some_iff.mp hshown
  obtain ⟨hkey, -, m, hm, rfl, jti', hmade⟩ := kept_drawn hkept now jti wide _ _ hdrawn
  rw [drawn, if_pos (.inl hscreen)] at hdrawn
  have hfresh := hkept.fresh hsigns hclock hdrawn
  obtain ⟨i, hmint, hlink⟩ := generateInviteQr_eq_ok.mp hmade
  -- only a user who is signed in has a key to sign with
  obtain ⟨session, hsession⟩ : ∃ session, d.sys.app.currentSession = some session :=
    Option.ne_none_iff_exists'.mp fun hnone => hkey (hcoherent.agree.unsigned hnone)
  obtain ⟨hserver, hdevice, huser, hsigning⟩ :=
    Badge.mk.inj (hcoherent.agree.badge session hsession)
  have hdevice' : d.sys.app.settingsScreen.deviceId = session.deviceId :=
    hdevice.trans (hcoherent.agree.deviceId session hsession)
  refine ⟨session, hsession, m, hm, hfresh, jti', i, ?_, hlink, fun hwall t ht => ?_⟩
  · rw [← hmint, hserver, huser, hsigning, hdevice']
    rfl
  · rw [isExpired_of_mint hmint]
    omega

/-- The key pair of thirty-two sevens, and its signature of the string
`5|11111111-1111-4111-8111-111111111111|22222222-2222-4222-8222-222222222222|`
`0123456789abcdef0123456789abcdef|localhost|1700000000||300`. -/
def localSevens : InviteLibs := .plain (sevens.verifyingKey [])
  ⟨[0x77, 0x37, 0x58, 0x3F, 0x4D, 0x89, 0x91, 0x9D, 0x80, 0x29, 0xF1, 0x8C, 0x4F, 0x78,
    0x90, 0xF5, 0x58, 0x51, 0x3C, 0x6F, 0x7A, 0x28, 0xC8, 0x53, 0xEF, 0xAF, 0xF2, 0x6C,
    0x65, 0x96, 0xFB, 0xA3, 0x26, 0x26, 0x4C, 0x4E, 0xCB, 0xFC, 0x32, 0x02, 0x53, 0xCE,
    0xB6, 0x56, 0xAA, 0xC7, 0x66, 0x6E, 0x9B, 0x13, 0x44, 0xC5, 0x5C, 0xCF, 0x4A, 0x2A,
    0x91, 0x2A, 0xCA, 0x34, 0xC8, 0x8C, 0xBA, 0x02], rfl⟩
  fun _ => .error "expected value"

/-- A device with that key. -/
def sevensSession : Session :=
  { Session.zeros with
    deviceId := "0123456789abcdef0123456789abcdef"
    signingKeyHex := String.ofList (Hex.encode (List.replicate 32 7)) }

def ones : Bytes :=
  [0x11, 0x11, 0x11, 0x11, 0x11, 0x11, 0x41, 0x11, 0x81, 0x11, 0x11, 0x11, 0x11, 0x11, 0x11, 0x11]

theorem length_ones : ones.length = 16 := rfl

def onesId : UuidBytes := ⟨ones, length_ones⟩

/-- A user registers and opens the identity code, which is drawn. -/
def opensCode : List (ShowLabel Unit) :=
  ([.startup .quiet, .key (.plain .enter) .quiet, .request 0 sevensSession .quiet,
    .finish 0 (.tokens "22222222-2222-4222-8222-222222222222" "access1" "refresh1" 100) .quiet,
    .internal .quiet, Sys.presses 's', Sys.presses 'q'].map fun a => .run (.act a)) ++
    [.draw ⟨0, some 1700000000⟩ onesId false]

/-- Some seconds later the code still shows the same link. -/
theorem invite_shown_fresh_registered : ∃ d payload session,
    Run.after (step .quiet localSevens) (start ⟨"http://localhost", "TLS", true, false⟩
      ⟨none, none, 0⟩ .init) opensCode = some d ∧
    d.shown localSevens ⟨10 ^ 10, some 1700000010⟩ onesId false = some payload ∧
    d.sys.app.currentSession = some session ∧ ∃ i, httpsLink localSevens i = .ok payload ∧
      ¬i.isExpired 1700000070 := by
  have hrun : ((Run.after (step .quiet localSevens) (start ⟨"http://localhost", "TLS", true, false⟩
      ⟨none, none, 0⟩ .init) opensCode).bind fun d =>
      d.shown localSevens ⟨10 ^ 10, some 1700000010⟩ onesId false).isSome := by decide +kernel
  obtain ⟨payload, hpayload⟩ := Option.isSome_iff_exists.mp hrun
  obtain ⟨d, hd, hshown⟩ := Option.bind_eq_some_iff.mp hpayload
  have hsigns : localSevens.Signs := fun key msg _ => by simp [localSevens, InviteLibs.plain]
  have hdrawings : Run.output (step .quiet localSevens) drawings
      (start ⟨"http://localhost", "TLS", true, false⟩ ⟨none, none, 0⟩ .init) opensCode =
        [⟨0, some 1700000000⟩] := by decide +kernel
  obtain ⟨session, hsession, m, hm, -, -, i, -, hlink, hleft⟩ :=
    invite_shown_fresh hsigns hd (by decide) hshown
  have hwall : nowUnix (some 1700000010) ≤ nowUnix m.clock + 240 := by
    rw [hdrawings] at hm
    obtain rfl | rfl : m = ⟨0, some 1700000000⟩ ∨ m = ⟨10 ^ 10, some 1700000010⟩ := by
      simpa using hm
    all_goals decide
  exact ⟨d, payload, session, hd, hshown, hsession, i, hlink, hleft hwall 1700000070 (by decide)⟩

end Showing

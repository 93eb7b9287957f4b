import ConstructTui.Invite.RoundTrip
import ConstructTui.Screens

/-!
# The payload of the identity code

The settings mint an invite for the identity code and keep its link. A link that is four minutes old
is replaced, a minute before the invite in it expires. Whether an invite can be minted depends on
whose it is, not on when: where one succeeded the next one does, so no link grows older than that.

## Main definitions

* `Invite.generateInviteQr`: mint an invite and make a link of it.
* `SettingsScreen.invitePayload`: the link to show, and what is kept for the next time.

## Main results

* `Invite.generateInviteQr_again`: what could be minted once can be minted at any time.
* `SettingsScreen.invitePayload_fresh`: a link that is shown is younger than four minutes.
-/

/-- What a key signs verifies under its public half. -/
def InviteLibs.Signs (L : InviteLibs) : Prop :=
  ∀ key msg, key.length = 32 → L.verify (L.verifyingKey key) msg (L.sign key msg).val

namespace Invite

open Checked (bind_eq_ok)

variable {L : InviteLibs}

/-- A new invite that lives five minutes, as a link. -/
def generateInviteQr (L : InviteLibs) (userId deviceId serverUrl signingKeyHex : String)
    (jti : UuidBytes) (clock : Option UInt64) : Except String String := do
  let invite ← mint L userId deviceId serverUrl signingKeyHex none 300 jti clock
  httpsLink L invite

/-- An invite whose parts are there can be written. -/
theorem Written.encodeBinary_eq {i : Invite} (w : Written L i)
    (hserver : (Utf8.encode i.server).isEmpty = false) : encodeBinary L i = .ok w.data := by
  have huuid {s : String} {u : UuidBytes} (h : L.uuidParse s = some u) :
      uuidBytes L s = .ok u.val := by simp [uuidBytes, h, context, Except.map]
  have hun : ((trimmedUsername i.un).map Utf8.encode).all (fun b => b.length ≤ 255) = true := by
    cases hname : trimmedUsername i.un with
    | none => rfl
    | some un => simpa using w.un_length un hname
  have hts : u64OfInt i.ts = .ok i.ts.toNat := if_pos w.ts_nonneg
  unfold encodeBinary
  simp only [bind_eq_ok, context_eq_ok, ensure_eq_ok]
  refine ⟨_, huuid w.hjti, _, huuid w.huuid, _, w.hdevice, (), by simpa using w.device_length, _,
    w.hsig, (), by simpa using w.sig_length, (), hun, (), by simp [hserver, w.server_length], _,
    w.heph, _, hts, _, w.httl, ?_⟩
  rw [Option.isSome_map, Option.map_map]
  rfl

/-- A server that is written has a name. -/
theorem server_of_encodeBinary {i : Invite} {data : Bytes} (h : encodeBinary L i = .ok data) :
    (Utf8.encode i.server).isEmpty = false := by
  unfold encodeBinary at h
  simp only [bind_eq_ok, context_eq_ok, ensure_eq_ok] at h
  obtain ⟨_, _, _, _, _, _, _, _, _, _, _, _, _, _, _, hserver, -⟩ := h
  simpa using (Bool.and_eq_true_iff.mp hserver).1

variable {userId deviceId serverUrl signingKeyHex : String} {jti jti' : UuidBytes}
  {clock clock' : Option UInt64}

theorem generateInviteQr_eq_ok {payload : String} :
    generateInviteQr L userId deviceId serverUrl signingKeyHex jti clock = .ok payload ↔
      ∃ i, mint L userId deviceId serverUrl signingKeyHex none 300 jti clock = .ok i ∧
        httpsLink L i = .ok payload := bind_eq_ok

/-- An invite of the same user and server can be minted at any other time, unless the clock is
negative. -/
theorem generateInviteQr_again {payload : String} (hsigns : L.Signs) (hclock : 0 ≤ nowUnix clock')
    (h : generateInviteQr L userId deviceId serverUrl signingKeyHex jti clock = .ok payload) :
    ∃ payload', generateInviteQr L userId deviceId serverUrl signingKeyHex jti' clock' =
      .ok payload' := by
  obtain ⟨i, hmint, hlink⟩ := generateInviteQr_eq_ok.mp h
  obtain ⟨data, hdata⟩ : ∃ data, encodeBinary L i = .ok data := by
    cases hdata : encodeBinary L i with
    | error e => simp [httpsLink, toBase64url, hdata, Except.map] at hlink
    | ok data => exact ⟨data, rfl⟩
  obtain ⟨w, -⟩ := exists_written hdata
  have hserver := server_of_encodeBinary hdata
  unfold mint at hmint
  simp only [bind_eq_ok, context_eq_ok, ensure_eq_ok] at hmint
  obtain ⟨_, httl, user, huser, _, hdevice, canonical, hcanonical, signingKey, hkey, _, hlength, _,
    hverify, hi⟩ := hmint
  obtain rfl := Except.ok.inj hi
  let unsigned : Invite :=
    { v := 5, jti := L.uuidToString jti', uuid := L.tables.toLowercase (L.uuidToString user)
      deviceId := L.tables.toLowercase deviceId, server := normalizeServer serverUrl, ephKey := ""
      ts := nowUnix clock', sig := "", un := trimmedUsername none, ttl := some 300 }
  obtain ⟨canonical', hcanonical'⟩ : ∃ canonical', canonicalString L unsigned = .ok canonical' :=
    ⟨_, rfl⟩
  have hverify' : L.verify (L.verifyingKey signingKey) (Utf8.encode canonical')
      (L.sign signingKey (Utf8.encode canonical')).val := hsigns _ _ (by simpa using hlength)
  let signed : Invite :=
    { unsigned with sig := L.b64Encode (L.sign signingKey (Utf8.encode canonical')).val }
  have hmint' : mint L userId deviceId serverUrl signingKeyHex none 300 jti' clock' =
      .ok signed := by
    unfold mint
    simp only [bind_eq_ok, context_eq_ok, ensure_eq_ok]
    exact ⟨(), httl, user, huser, (), hdevice, canonical', hcanonical', signingKey, hkey, (),
      hlength,
      (), hverify', rfl⟩
  have w' : Written L signed :=
    { w with
      jti := jti'
      sig := (L.sign signingKey (Utf8.encode canonical')).val
      hjti := L.uuidParse_toString jti'
      hsig := L.b64_decode_encode _
      sig_length := (L.sign signingKey (Utf8.encode canonical')).property
      ts_nonneg := hclock }
  have hlink' : httpsLink L signed = .ok (httpsAdd ++ L.b64urlEncode w'.data) := by
    rw [httpsLink, toBase64url, w'.encodeBinary_eq hserver]
    rfl
  exact ⟨_, generateInviteQr_eq_ok.mpr ⟨signed, hmint', hlink'⟩⟩

/-- An invite for the identity code lives five minutes. -/
theorem isExpired_of_mint {i : Invite} {t : ℤ}
    (h : mint L userId deviceId serverUrl signingKeyHex none 300 jti clock = .ok i) :
    i.isExpired t ↔ nowUnix clock + 300 < t := by
  unfold mint at h
  simp only [bind_eq_ok, context_eq_ok, ensure_eq_ok] at h
  obtain ⟨_, -, user, -, _, -, canonical, -, signingKey, -, _, -, _, -, hi⟩ := h
  obtain rfl := Except.ok.inj hi
  simp [isExpired, effectiveTtl]

end Invite

/-- A point in time, by the clock that never goes back, in nanoseconds, and by the clock on the
wall, in seconds. -/
structure Moment where
  instant : ℕ
  clock : Option UInt64
  deriving DecidableEq, Repr

namespace SettingsScreen

open Invite

variable (L : InviteLibs)

/-- Four minutes. -/
def refreshNanos : ℕ := 240 * 10 ^ 9

/-- There is no link, or it is four minutes old. -/
def needsRefresh (now : Moment) (cache : Option (String × ℕ)) : Bool :=
  cache.all fun c => refreshNanos ≤ now.instant - c.2

/-- The link that is kept after one was asked for, with the time it was made; `jti` is the random id
of a new invite. The link to show is the one kept. -/
def invitePayload (now : Moment) (jti : UuidBytes) (p : SettingsScreen)
    (cache : Option (String × ℕ)) : Option (String × ℕ) :=
  if needsRefresh now cache && p.signingKeyHex ≠ "" && p.userId ≠ "" then
    match generateInviteQr L p.userId p.deviceId p.server p.signingKeyHex jti now.clock with
    | .ok payload => some (payload, now.instant)
    | .error _ => cache
  else cache

/-- The link that is kept was made at one of the moments, from what the settings have. -/
def Kept (made : List Moment) (p : SettingsScreen) (cache : Option (String × ℕ)) : Prop :=
  ∀ payload instant, cache = some (payload, instant) → p.signingKeyHex ≠ "" ∧ p.userId ≠ "" ∧
    ∃ m ∈ made, m.instant = instant ∧ ∃ jti,
      generateInviteQr L p.userId p.deviceId p.server p.signingKeyHex jti m.clock = .ok payload

variable {L} {now : Moment} {made : List Moment} {p : SettingsScreen} {cache : Option (String × ℕ)}

theorem kept_none : Kept L made p none := nofun

theorem Kept.invitePayload (h : Kept L made p cache) (now : Moment) (jti : UuidBytes) :
    Kept L (made ++ [now]) p (p.invitePayload L now jti cache) := by
  have hkept : Kept L (made ++ [now]) p cache := fun payload instant hcache => by
    obtain ⟨hkey, huser, m, hm, hmade⟩ := h payload instant hcache
    exact ⟨hkey, huser, m, List.mem_append_left _ hm, hmade⟩
  unfold SettingsScreen.invitePayload
  split
  · next hrefresh =>
    simp only [Bool.and_eq_true, decide_eq_true_eq] at hrefresh
    split
    · next payload hgenerate =>
      rintro _ _ ⟨⟩
      exact ⟨hrefresh.1.2, hrefresh.2, now, by simp, rfl, jti, hgenerate⟩
    · exact hkept
  · exact hkept

/-- **A link that is shown is younger than four minutes**, as long as the clock on the wall is not
negative: the one before it was minted, so this one can be. -/
theorem Kept.fresh (h : Kept L made p cache) (hsigns : L.Signs) {jti : UuidBytes}
    (hclock : 0 ≤ nowUnix now.clock) {payload : String} {instant : ℕ}
    (hshown : p.invitePayload L now jti cache = some (payload, instant)) :
    now.instant - instant < refreshNanos := by
  unfold SettingsScreen.invitePayload at hshown
  split at hshown
  · next hrefresh =>
    split at hshown
    · obtain ⟨-, rfl⟩ := Prod.mk.inj (Option.some.inj hshown)
      simp [refreshNanos]
    · next e hgenerate =>
      -- the link that is kept shows that minting works
      obtain ⟨-, -, m, -, -, jti', hmade⟩ := h payload instant hshown
      obtain ⟨payload', hagain⟩ := generateInviteQr_again hsigns hclock hmade
      rw [hagain] at hgenerate
      cases hgenerate
  · next hrefresh =>
    obtain ⟨hkey, huser, -⟩ := h payload instant hshown
    simpa [needsRefresh, hshown, hkey, huser] using hrefresh

end SettingsScreen

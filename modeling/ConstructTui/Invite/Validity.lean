import ConstructTui.Invite.Grammar

/-!
# What is accepted as an invite

An invite arrives as a binary or as legacy JSON. The decoder of the binary checks time and lifetime
but not the version, and the decoder of the JSON checks nothing, so an accepted invite need not be
one that could have been minted.

## Main definitions

* `Invite.Valid`: the rules for an accepted invite.
* `Invite.checkedPayload`: what a payload must be for them to hold.

## Main results

* `Invite.decodeBinary_ok`: what the decoder of the binary does ensure.
* `Invite.valid_iff`: an accepted invite is valid exactly when its payload is so.
* `Invite.json_unchecked`: a payload that is not.
-/

namespace Invite

open Checked (bind_eq_ok)

variable {L : InviteLibs} {clock : Option UInt64}

/-- The rules for an invite that is accepted at `now`: a supported version, a time that is not in
the future but for the skew, a lifetime above the floor, and an end of it. -/
structure Valid (binary : Bool) (now : ℤ) (i : Invite) : Prop where
  version : if binary then 1 ≤ i.v.toNat ∧ i.v.toNat ≤ 5 else i.v = 3 ∨ i.v = 4
  ts : 0 < i.ts ∧ i.ts ≤ now + 300
  ttl : i.v = 5 → ∃ t, i.ttl = some t ∧ 60 ≤ t
  expires : ∀ t, now + 300 + 43200 < t → i.isExpired t

/-- The version of the binary is one of five, or the JSON has one of two versions and a time that is
not in the future but for the skew. -/
def checkedPayload (L : InviteLibs) (now : ℤ) (bytes : Bytes) : Prop :=
  if magic.isPrefixOf bytes then 1 ≤ (bytes.getD 5 0).toNat ∧ (bytes.getD 5 0).toNat ≤ 5
  else ∃ j, L.fromJson bytes = .ok j ∧ (j.v = 3 ∨ j.v = 4) ∧ 0 < j.ts ∧ j.ts ≤ now + 300

/-- No invite lives longer than a link. -/
theorem isExpired_of_ts_le {i : Invite} {now t : ℤ} (h : i.ts ≤ now + 300)
    (ht : now + 300 + 43200 < t) : i.isExpired t := by
  have httl : i.effectiveTtl ≤ 43200 := by
    unfold effectiveTtl
    split
    · exact Nat.min_le_right _ _
    · exact Nat.le_refl _
  unfold isExpired
  rw [decide_eq_true_eq]
  omega

/-- The version stands behind the magic bytes and the flags. -/
theorem getD_bytes (c : Civ1) : c.bytes.getD 5 0 = c.v := by
  unfold Civ1.bytes
  rw [List.getD_eq_getElem?_getD, List.getElem?_append_right (show magic.length ≤ 5 by decide)]
  rfl

/-- What the decoder of the binary ensures. -/
theorem decodeBinary_ok {data : Bytes} {i : Invite} (h : decodeBinary L clock data = .ok i) :
    i.v = data.getD 5 0 ∧ (0 < i.ts ∧ i.ts ≤ nowUnix clock + 300) ∧
      (5 ≤ i.v → ∃ t, i.ttl = some t ∧ 60 ≤ t) := by
  obtain ⟨c, rfl, htimely, rfl⟩ := decodeBinary_eq_ok.mp h
  refine ⟨(getD_bytes c).symm, ⟨htimely.pos, htimely.le⟩, fun hfive => ?_⟩
  exact ⟨BigEndian.ofBe c.ttl, if_pos hfive, htimely.floor hfive⟩

/-- An accepted invite is valid if and only if its payload says a version that is supported and, for
JSON, a time that is not in the future but for the skew. -/
theorem valid_iff {raw : String} {i : Invite} (h : parseInvite L clock raw = .ok i) :
    ∃ bytes, payloadBytes L raw = some bytes ∧
      (Valid (magic.isPrefixOf bytes) (nowUnix clock) i ↔
        checkedPayload L (nowUnix clock) bytes) := by
  unfold parseInvite at h
  cases hbytes : payloadBytes L raw with
  | none => simp [hbytes] at h
  | some bytes =>
    rw [hbytes] at h
    dsimp only at h
    refine ⟨bytes, rfl, ?_⟩
    unfold checkedPayload
    split at h
    · next hmagic =>
      obtain ⟨hv, hts, httl⟩ := decodeBinary_ok h
      rw [if_pos hmagic, hmagic, ← hv]
      constructor
      · intro hvalid
        simpa using hvalid.version
      · intro hversion
        refine ⟨by simpa using hversion, hts, fun hfive => httl (by rw [hfive]; decide), ?_⟩
        exact fun t ht => isExpired_of_ts_le hts.2 ht
    · next hmagic =>
      rw [if_neg hmagic]
      unfold decodeLegacyJson at h
      cases hj : L.fromJson bytes with
      | error e => simp [hj, bind, Except.bind] at h
      | ok j =>
        rw [hj] at h
        obtain rfl := Except.ok.inj h
        constructor
        · intro hvalid
          exact ⟨j, rfl, by simpa [hmagic] using hvalid.version, hvalid.ts⟩
        · rintro ⟨j', hj', hversion, hts⟩
          obtain rfl := Except.ok.inj hj'
          refine ⟨by simpa [hmagic] using hversion, hts, fun hfive => ?_, ?_⟩
          · have hv : j.v = 5 := hfive
            rw [hv] at hversion
            exact absurd hversion (by decide)
          · exact fun t ht => isExpired_of_ts_le hts.2 ht

/-- Surroundings that read legacy JSON with nothing but a time, which is `1700000000` or
`9999999999`. -/
def dated : InviteLibs := .plain [] zeroSignature fun bs =>
  .ok ⟨3, "a", "b", "c", "d", "", if bs.getD 61 0 = 49 then 1700000000 else 9999999999, "e", none,
    none⟩

/-- The payload
`\x7b"v":3,"jti":"a","uuid":"b","deviceId":"c","server":"d","ts":1700000000,"sig":"e"\x7d` is valid
a minute later. -/
theorem valid_minuteOld : ∃ raw i, parseInvite dated (some 1700000060) raw = .ok i ∧
    Valid false (nowUnix (some 1700000060)) i := by
  let raw := "eyJ2IjozLCJqdGkiOiJhIiwidXVpZCI6ImIiLCJkZXZpY2VJZCI6ImMiLCJz" ++
    "ZXJ2ZXIiOiJkIiwidHMiOjE3MDAwMDAwMDAsInNpZyI6ImUifQ=="
  have hbytes : (payloadBytes dated raw).map (fun bs => (magic.isPrefixOf bs, bs.getD 61 0)) =
      some (false, 49) := by decide +kernel
  obtain ⟨bytes, hbytes, hbs⟩ := Option.map_eq_some_iff.mp hbytes
  obtain ⟨hmagic, hdigit⟩ := Prod.mk.inj hbs
  let i : Invite := ⟨3, "a", "b", "c", "d", "", 1700000000, "e", none, none⟩
  have hjson :
      dated.fromJson bytes = .ok ⟨3, "a", "b", "c", "d", "", 1700000000, "e", none, none⟩ := by
    have hread : dated.fromJson bytes = .ok ⟨3, "a", "b", "c", "d", "",
      if bytes.getD 61 0 = 49 then 1700000000 else 9999999999, "e", none, none⟩ := rfl
    rw [hread, hdigit, if_pos rfl]
  have hparse : parseInvite dated (some 1700000060) raw = .ok i := by
    unfold parseInvite decodeLegacyJson
    rw [hbytes]
    dsimp only
    rw [hmagic, if_neg (by decide), hjson]
    rfl
  refine ⟨raw, i, hparse, ?_⟩
  obtain ⟨bytes', hbytes', hiff⟩ := valid_iff hparse
  obtain rfl := Option.some.inj (hbytes.symm.trans hbytes')
  rw [hmagic] at hiff
  refine hiff.mpr ?_
  unfold checkedPayload
  rw [hmagic, if_neg (by decide)]
  exact ⟨_, hjson, .inl rfl, by decide, by decide⟩

/-- The same payload with the time `9999999999` is accepted two and a half centuries before. -/
theorem json_unchecked : ∃ raw i, parseInvite dated (some 1700000060) raw = .ok i ∧
    ¬i.ts ≤ nowUnix (some 1700000060) + 300 ∧
    ¬i.isExpired (nowUnix (some 1700000060) + 300 + 43200 + 1) := by
  let raw := "eyJ2IjozLCJqdGkiOiJhIiwidXVpZCI6ImIiLCJkZXZpY2VJZCI6ImMiLCJz" ++
    "ZXJ2ZXIiOiJkIiwidHMiOjk5OTk5OTk5OTksInNpZyI6ImUifQ=="
  refine ⟨raw, ?_⟩
  have hrun : (do
      let i ← parseInvite dated (some 1700000060) raw
      return (i.ts, i.ttl) : Except String (ℤ × Option ℕ)) = .ok (9999999999, none) := by
    decide +kernel
  obtain ⟨i, hi, hfields⟩ := bind_eq_ok.mp hrun
  obtain ⟨hts, httl⟩ := Prod.mk.inj (Except.ok.inj hfields)
  refine ⟨i, hi, ?_, ?_⟩
  · rw [hts]
    decide
  · unfold isExpired effectiveTtl
    rw [hts, httl]
    decide

end Invite

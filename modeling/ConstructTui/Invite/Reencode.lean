import ConstructTui.Invite.RoundTrip
import ConstructTui.Invite.Signature
import ConstructTui.Invite.Strict

/-!
# What encoding does to the signed string

An invite is written in binary with its identifiers as bytes, its device in hexadecimal of either
case and its user name trimmed. The string that is signed lowers the identifiers, and takes the
device and the user name as they are. So an invite that is written and read again keeps its signed
string when these fields are in the form that is read.

## Main definitions

* `Invite.Normal`: the signed fields are in the form that is read.
* `Invite.Verifies`: the signature of an invite holds for a key.

## Main results

* `Invite.canonicalString_reencoded`: the signed string survives exactly for normal invites.
* `Invite.Minted.normal`: a minted invite is normal.
* `Invite.reencoded_blank`: an invite that is not, and whose signed string does not survive.
-/

namespace Invite

open Fields
open Checked (bind_eq_ok)

variable {L : InviteLibs} {i j : Invite}

/-- The fields that are signed are in the form that is read: the identifiers with hyphens, the
device without capitals, the user name trimmed. -/
structure Normal (L : InviteLibs) (i : Invite) : Prop where
  jti : ∀ u, L.uuidParse i.jti = some u → L.tables.toLowercase i.jti = L.uuidToString u
  uuid : ∀ u, L.uuidParse i.uuid = some u → L.tables.toLowercase i.uuid = L.uuidToString u
  deviceId : 2 ≤ i.v.toNat → ∀ c ∈ i.deviceId.toList, ¬('A' ≤ c ∧ c ≤ 'F')
  un : 3 ≤ i.v.toNat → trimChars (i.un.getD "").toList = (i.un.getD "").toList

/-- The signature of an invite holds for a key. -/
def Verifies (L : InviteLibs) (key : Bytes) (i : Invite) : Prop :=
  ∃ canonical sig, canonicalString L i = .ok canonical ∧ L.b64Decode i.sig = some sig ∧
    L.verify key (Utf8.encode canonical) sig

/-- An invite that has been written and read again. -/
structure Reencoded (L : InviteLibs) (i j : Invite) : Prop where
  v : j.v = i.v
  jti : ∃ u, L.uuidParse i.jti = some u ∧ j.jti = L.uuidToString u
  uuid : ∃ u, L.uuidParse i.uuid = some u ∧ j.uuid = L.uuidToString u
  deviceId : ∃ bs, L.hexDecode i.deviceId = some bs ∧ j.deviceId = L.hexEncode bs
  server : j.server = i.server
  ephKey : i.v.toNat ≤ 3 → j.ephKey = i.ephKey
  ts : j.ts = i.ts
  sig : j.sig = i.sig
  un : j.un.getD "" = String.ofList (trimChars (i.un.getD "").toList)
  ttl : i.v.toNat = 5 → j.ttl = i.ttl

theorem trimmedUsername_getD (un : Option String) :
    (trimmedUsername un).getD "" = String.ofList (trimChars (un.getD "").toList) := by
  cases un with
  | none => rfl
  | some s =>
    unfold trimmedUsername
    by_cases hempty : String.ofList (trimChars s.toList) = ""
    · simp [hempty, Option.filter_some]
    · simp [hempty, Option.filter_some]

theorem ephText_ephBytes (hL : L.Strict) {eph : Bytes} (h : ephBytes L i = .ok eph)
    (hv : i.v ≤ 3) : ephText L i.v eph = i.ephKey := by
  unfold ephBytes at h
  rw [if_pos hv] at h
  simp only [bind_eq_ok, context_eq_ok] at h
  obtain ⟨bs, hbs, _, -, heq⟩ := h
  obtain rfl := Except.ok.inj heq
  rw [ephText, if_pos hv, hL.b64Encode_of_decode _ _ hbs]

/-- What is written and accepted again. -/
theorem reencoded (hL : L.Strict) (hi : i.InRange) {clock : Option UInt64} {data : Bytes}
    (hdata : encodeBinary L i = .ok data) (hj : decodeBinary L clock data = .ok j) :
    Reencoded L i j := by
  obtain ⟨w, rfl⟩ := exists_written hdata
  obtain ⟨-, rfl⟩ := w.decodeBinary_data.mp hj
  rw [w.invite_civ1 hi.ts.2 fun t ht => hi.ttl t ht]
  exact {
    v := rfl
    jti := ⟨w.jti, w.hjti, rfl⟩
    uuid := ⟨w.uuid, w.huuid, rfl⟩
    deviceId := ⟨w.device, w.hdevice, rfl⟩
    server := rfl
    ephKey := fun hv => ephText_ephBytes hL w.heph (UInt8.le_iff_toNat_le.mpr hv)
    ts := rfl
    sig := hL.b64Encode_of_decode _ _ w.hsig
    un := trimmedUsername_getD i.un
    ttl := fun hv => if_pos (show 5 ≤ i.v from UInt8.le_iff_toNat_le.mpr hv.ge) }

namespace Reencoded

theorem signable (h : Reencoded L i j) : j.Signable ↔ i.Signable := by
  unfold Signable
  rw [h.v]
  refine and_congr_right fun _ => and_congr_right fun _ => forall_congr' fun hv => ?_
  rw [h.ttl hv]

theorem jti_eq (h : Reencoded L i j) : L.tables.toLowercase j.jti = j.jti := by
  obtain ⟨u, -, hu⟩ := h.jti
  rw [hu, toLowercase_uuidToString]

theorem uuid_eq (h : Reencoded L i j) : L.tables.toLowercase j.uuid = j.uuid := by
  obtain ⟨u, -, hu⟩ := h.uuid
  rw [hu, toLowercase_uuidToString]

/-- What is read is normal, so it is what was written if that was normal. -/
theorem normal_iff (hL : L.Strict) (h : Reencoded L i j) : Normal L i ↔
    L.tables.toLowercase i.jti = j.jti ∧ L.tables.toLowercase i.uuid = j.uuid ∧
      (2 ≤ i.v.toNat → i.deviceId = j.deviceId) ∧
        (3 ≤ i.v.toNat → i.un.getD "" = j.un.getD "") := by
  obtain ⟨jti, hjti, hjti'⟩ := h.jti
  obtain ⟨uuid, huuid, huuid'⟩ := h.uuid
  obtain ⟨bs, hbs, hbs'⟩ := h.deviceId
  constructor
  · intro hi
    refine ⟨(hi.jti jti hjti).trans hjti'.symm, (hi.uuid uuid huuid).trans huuid'.symm,
      fun hv => ?_, fun hv => ?_⟩
    · rw [hbs', L.hexEncode_of_decode _ _ hbs (hi.deviceId hv)]
    · rw [h.un, hi.un hv, String.ofList_toList]
  · rintro ⟨hjtis, huuids, hdevice, hun⟩
    refine ⟨fun u hu => ?_, fun u hu => ?_, fun hv c hc => ?_, fun hv => ?_⟩
    · rw [hjtis, hjti', Option.some.inj (hjti.symm.trans hu)]
    · rw [huuids, huuid', Option.some.inj (huuid.symm.trans hu)]
    · rw [hdevice hv, hbs'] at hc
      rintro ⟨hA, hF⟩
      have h₁ : 65 ≤ c.toNat := hA
      have h₂ : c.toNat ≤ 70 := hF
      rcases hL.mem_hexEncode bs c hc with ⟨_, h₃⟩ | ⟨h₃, _⟩
      · have h₄ : c.toNat ≤ 57 := h₃
        omega
      · have h₄ : 97 ≤ c.toNat := h₃
        omega
    · have heq := congrArg String.toList ((hun hv).trans h.un)
      rw [String.toList_ofList] at heq
      exact heq.symm

end Reencoded

/-! ### The pieces of the signed string -/

theorem pieces_of_canonicalString {s : String} (h : canonicalString L i = .ok s) :
    pieces '|' s.toList =
      i.version :: (allPieces '|' (leading L i) ++ i.mark :: allPieces '|' i.trailing) := by
  rw [(canonicalString_eq_ok.mp h).2, pieces_join (by simp), allPieces, List.flatMap_append,
    List.flatMap_cons, List.flatMap_cons, pieces_of_not_mem i.bar_not_mem_version,
    pieces_of_not_mem i.bar_not_mem_mark, List.append_assoc, List.singleton_append,
    List.singleton_append]
  rfl

/-- The identifiers are pieces when they hold no bar. -/
theorem allPieces_leading (hjti : '|' ∉ i.jti.toList) (huuid : '|' ∉ i.uuid.toList)
    (hdevice : '|' ∉ i.deviceId.toList) : allPieces '|' (leading L i) =
      [(L.tables.toLowercase i.jti).toList, (L.tables.toLowercase i.uuid).toList] ++
        ((if 2 ≤ i.v.toNat then [i.deviceId.toList] else []) ++ allPieces '|' ([i.server.toList] ++
          (if i.v.toNat ≤ 3 then [i.ephKey.toList] else []))) := by
  have hids : ∀ f ∈ [(L.tables.toLowercase i.jti).toList, (L.tables.toLowercase i.uuid).toList],
      '|' ∉ f := by
    simpa [CaseTables.bar_mem_toLowercase] using ⟨hjti, huuid⟩
  have hdevices : ∀ f ∈ if 2 ≤ i.v.toNat then [i.deviceId.toList] else [], '|' ∉ f := by
    split
    · simpa using hdevice
    · simp
  unfold leading
  rw [allPieces, List.flatMap_append, List.flatMap_append]
  exact congrArg₂ (· ++ ·) (allPieces_of_not_mem hids)
    (congrArg₂ (· ++ ·) (allPieces_of_not_mem hdevices) rfl)

namespace Reencoded

theorem bar_not_mem (hL : L.Strict) (h : Reencoded L i j) :
    ('|' ∉ i.jti.toList ∧ '|' ∉ i.uuid.toList ∧ '|' ∉ i.deviceId.toList) ∧
      '|' ∉ j.jti.toList ∧ '|' ∉ j.uuid.toList ∧ '|' ∉ j.deviceId.toList := by
  obtain ⟨jti, hjti, hjti'⟩ := h.jti
  obtain ⟨uuid, huuid, huuid'⟩ := h.uuid
  obtain ⟨bs, hbs, hbs'⟩ := h.deviceId
  refine ⟨⟨hL.bar_not_mem_uuid _ _ hjti, hL.bar_not_mem_uuid _ _ huuid, hL.bar_not_mem_hex _ _ hbs⟩,
    ?_, ?_, ?_⟩
  · rw [hjti']
    exact hL.bar_not_mem_uuid _ _ (L.uuidParse_toString jti)
  · rw [huuid']
    exact hL.bar_not_mem_uuid _ _ (L.uuidParse_toString uuid)
  · rw [hbs']
    exact fun hbar => absurd (hL.mem_hexEncode bs _ hbar) (by decide)

theorem normal_of_canonicalString (hL : L.Strict) (h : Reencoded L i j) {s : String}
    (hi : canonicalString L i = .ok s) (hj : canonicalString L j = .ok s) : Normal L i := by
  obtain ⟨⟨hjti, huuid, hdevice⟩, hjti', huuid', hdevice'⟩ := h.bar_not_mem hL
  have hpieces := (pieces_of_canonicalString hi).symm.trans (pieces_of_canonicalString hj)
  obtain ⟨-, hpieces⟩ := List.cons.inj hpieces
  have heph : (if i.v.toNat ≤ 3 then [j.ephKey.toList] else []) =
      if i.v.toNat ≤ 3 then [i.ephKey.toList] else [] := by
    split
    · next hv => rw [h.ephKey hv]
    · rfl
  rw [allPieces_leading hjti huuid hdevice, allPieces_leading hjti' huuid' hdevice',
    allPieces_trailing, allPieces_trailing, h.v, h.server, heph, mark, mark, h.ts,
      List.append_assoc,
    List.append_assoc, List.append_assoc, List.append_assoc] at hpieces
  obtain ⟨hids, hpieces⟩ := List.append_inj hpieces (by simp only [List.length_cons])
  obtain ⟨hdevices, hpieces⟩ := List.append_inj hpieces (by
    simp only [apply_ite List.length, List.length_cons, List.length_nil])
  have hpieces := (List.cons.inj (List.append_cancel_left hpieces)).2
  have httl : (if i.v.toNat = 5 then [(toString (j.ttl.getD 0)).toList] else []) =
      if i.v.toNat = 5 then [(toString (i.ttl.getD 0)).toList] else [] := by
    split
    · next hv => rw [h.ttl hv]
    · rfl
  rw [httl] at hpieces
  have hun := List.append_cancel_right hpieces
  obtain ⟨hjtis, hids⟩ := List.cons.inj hids
  refine (h.normal_iff hL).mpr ⟨?_, ?_, fun hv => ?_, fun hv => ?_⟩
  · rw [String.toList_inj.mp hjtis, h.jti_eq]
  · rw [String.toList_inj.mp (List.cons.inj hids).1, h.uuid_eq]
  · rw [if_pos hv, if_pos hv] at hdevices
    exact String.toList_inj.mp (List.cons.inj hdevices).1
  · rw [if_pos hv, if_pos hv] at hun
    exact String.toList_inj.mp (pieces_inj hun)

theorem canonicalString_of_normal (hL : L.Strict) (h : Reencoded L i j) (hn : Normal L i)
    {s : String} (hi : canonicalString L i = .ok s) : canonicalString L j = .ok s := by
  obtain ⟨hsignable, hs⟩ := canonicalString_eq_ok.mp hi
  obtain ⟨hjti, huuid, hdevice, hun⟩ := (h.normal_iff hL).mp hn
  have halike : SignedAlike L i j := {
    v := h.v.symm
    jti := hjti.trans h.jti_eq.symm
    uuid := huuid.trans h.uuid_eq.symm
    deviceId := hdevice
    server := h.server.symm
    ephKey := fun hv => (h.ephKey hv).symm
    ts := h.ts.symm
    un := hun
    ttl := fun hv => (h.ttl hv).symm }
  have htrailing : i.trailing = j.trailing := by
    unfold trailing
    rw [h.v]
    refine congrArg₂ (· ++ ·) ?_ ?_
    · split
      · next hv => rw [hun hv]
      · rfl
    · split
      · next hv => rw [h.ttl hv]
      · rfl
  have hversion : j.version = i.version := by rw [version, version, h.v]
  have hmark : j.mark = i.mark := by rw [mark, mark, h.ts]
  refine canonicalString_eq_ok.mpr ⟨h.signable.mpr hsignable, ?_⟩
  rw [hs, ← htrailing, halike.leading_eq, hversion, hmark]

end Reencoded

/-- The signed string of an invite survives writing and reading exactly when the invite is normal,
and then so does its signature. -/
theorem canonicalString_reencoded (hL : L.Strict) (hi : i.InRange) {s : String} {data : Bytes}
    {clock : Option UInt64} (hs : canonicalString L i = .ok s) (hdata : encodeBinary L i = .ok data)
    (hj : decodeBinary L clock data = .ok j) :
    (canonicalString L j = .ok s ↔ Normal L i) ∧
      (Normal L i → ∀ key, Verifies L key i → Verifies L key j) := by
  have h := reencoded hL hi hdata hj
  refine ⟨⟨h.normal_of_canonicalString hL hs, fun hn => h.canonicalString_of_normal hL hn hs⟩, ?_⟩
  rintro hn key ⟨canonical, sig, hcanonical, hsig, hverify⟩
  obtain rfl := Except.ok.inj (hs.symm.trans hcanonical)
  exact ⟨s, sig, h.canonicalString_of_normal hL hn hs, h.sig ▸ hsig, hverify⟩

/-- An invite of a user `name` with a signature of zeros. -/
def zeroSigned (name : String) : Invite :=
  { inviteOf "konstruct.cc" 1700000000 name with
    sig := String.ofList (Base64.encode Base64.standard zeroSignature.val) }

/-- The signed string of an invite of a user `fox` survives. -/
theorem reencoded_fox : ∃ s data j, canonicalString unsignedLibs (zeroSigned "fox") = .ok s ∧
    encodeBinary unsignedLibs (zeroSigned "fox") = .ok data ∧
    decodeBinary unsignedLibs (some 1700000060) data = .ok j ∧
    canonicalString unsignedLibs j = .ok s := by
  have hrun : (encodeBinary unsignedLibs (zeroSigned "fox") >>= fun data =>
      decodeBinary unsignedLibs (some 1700000060) data >>= fun j => .ok j.v) = .ok 5 := by
    decide +kernel
  obtain ⟨data, hdata, hrun⟩ := bind_eq_ok.mp hrun
  obtain ⟨j, hj, -⟩ := bind_eq_ok.mp hrun
  have hrange : (zeroSigned "fox").InRange := by
    refine ⟨by decide, fun t ht => ?_⟩
    obtain rfl := Option.some.inj ht
    decide
  have hnormal : Normal unsignedLibs (zeroSigned "fox") := by
    have hid {s : String} (hs : (unsignedLibs.uuidParse s).map unsignedLibs.uuidToString =
        some (unsignedLibs.tables.toLowercase s)) (u : UuidBytes)
        (hu : unsignedLibs.uuidParse s = some u) :
        unsignedLibs.tables.toLowercase s = unsignedLibs.uuidToString u := by
      rw [hu] at hs
      exact (Option.some.inj hs).symm
    have hdevice : (zeroSigned "fox").deviceId.toList.all fun c => !decide ('A' ≤ c ∧ c ≤ 'F') := by
      decide
    refine ⟨hid (by decide +kernel), hid (by decide +kernel), fun _ c hc => ?_, fun _ => by decide⟩
    simpa [imp_iff_not_or] using List.all_eq_true.mp hdevice c hc
  exact ⟨_, data, j, rfl, hdata, hj, (canonicalString_reencoded (InviteLibs.strict_plain _ _ _)
    hrange rfl hdata hj).1.mpr hnormal⟩

/-- The same of a user `fox` and a blank is read back without the blank, which was signed. -/
theorem reencoded_blank : ∃ s data j, canonicalString unsignedLibs (zeroSigned "fox ") = .ok s ∧
    encodeBinary unsignedLibs (zeroSigned "fox ") = .ok data ∧
    decodeBinary unsignedLibs (some 1700000060) data = .ok j ∧
    canonicalString unsignedLibs j ≠ .ok s := by
  have hrun : (encodeBinary unsignedLibs (zeroSigned "fox ") >>= fun data =>
      decodeBinary unsignedLibs (some 1700000060) data >>= canonicalString unsignedLibs) =
        canonicalString unsignedLibs (zeroSigned "fox") := by decide +kernel
  obtain ⟨data, hdata, hrun⟩ := bind_eq_ok.mp hrun
  obtain ⟨j, hj, hrun⟩ := bind_eq_ok.mp hrun
  refine ⟨_, data, j, rfl, hdata, hj, fun heq => ?_⟩
  have heq := hrun.symm.trans heq
  exact absurd heq (by decide +kernel)

/-- A minted invite is normal. -/
theorem Minted.normal {clock : Option UInt64} {signingKeyHex : String}
    (h : Minted L clock signingKeyHex i) : Normal L i := by
  have hid {s : String} (hs : ∃ u, s = L.uuidToString u) (u : UuidBytes)
      (hu : L.uuidParse s = some u) : L.tables.toLowercase s = L.uuidToString u := by
    obtain ⟨u', rfl⟩ := hs
    rw [L.uuidParse_toString] at hu
    rw [toLowercase_uuidToString, Option.some.inj hu]
  refine ⟨hid h.jti, hid h.uuid, fun _ c hc => (h.deviceId c hc).not_upper, fun _ => ?_⟩
  have htrim := trimmedUsername_getD i.un
  rw [h.un] at htrim
  have heq := congrArg String.toList htrim
  rw [String.toList_ofList] at heq
  exact heq.symm

end Invite

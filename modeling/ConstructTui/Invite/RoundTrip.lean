import ConstructTui.Invite.Grammar

/-!
# Invites survive the wire

Reading a binary invite gives back what was written, each field in its canonical form. A minted
invite has every field in that form, so it comes back as it was, alone or in a link.

## Main definitions

* `Invite.Written`: what a successful `encodeBinary` has found.

## Main results

* `Invite.Written.decodeBinary_data`: a written invite is read back.
* `Invite.parseInvite_minted`: a minted invite is parsed back from all that carries it.
-/

open BigEndian

namespace Invite

open Checked (bind_eq_ok)

variable {L : InviteLibs}

/-! ### What is written -/

/-- The parts that an invite is written in. -/
structure Written (L : InviteLibs) (i : Invite) where
  jti : UuidBytes
  uuid : UuidBytes
  device : Bytes
  sig : Bytes
  eph : Bytes
  ttl : Bytes
  hjti : L.uuidParse i.jti = some jti
  huuid : L.uuidParse i.uuid = some uuid
  hdevice : L.hexDecode i.deviceId = some device
  device_length : device.length = 16
  hsig : L.b64Decode i.sig = some sig
  sig_length : sig.length = 64
  un_length : ∀ un ∈ trimmedUsername i.un, (Utf8.encode un).length ≤ 255
  server_length : (Utf8.encode i.server).length ≤ 255
  heph : ephBytes L i = .ok eph
  ts_nonneg : 0 ≤ i.ts
  httl : ttlBytes i = .ok ttl

def Written.data {i : Invite} (w : Written L i) : Bytes :=
  magic ++ ([if (trimmedUsername i.un).isSome then 1 else 0, i.v] ++
    (w.jti.val ++ (w.uuid.val ++ (w.device ++ (w.eph ++ (be64 i.ts.toNat ++ (w.sig ++
    (UInt8.ofNat (Utf8.encode i.server).length :: Utf8.encode i.server ++
    ((((trimmedUsername i.un).map fun un =>
      UInt8.ofNat (Utf8.encode un).length :: Utf8.encode un).getD []) ++ w.ttl)))))))))

/-- What a successful write has found. -/
theorem exists_written {i : Invite} {data : Bytes} (h : encodeBinary L i = .ok data) :
    ∃ w : Written L i, data = w.data := by
  unfold encodeBinary at h
  simp only [bind_eq_ok, context_eq_ok, ensure_eq_ok] at h
  obtain ⟨jtiBytes, hjti, uuidBytes', huuid, device, hdevice, _, hdevlen, sig, hsig, _, hsiglen, _,
    hun, _, hserver, eph, heph, ts, hts, ttl, httl, hdata⟩ := h
  have hparse (s : String) (bs : Bytes) (hs : uuidBytes L s = .ok bs) :
      ∃ u : UuidBytes, L.uuidParse s = some u ∧ bs = u.val := by
    unfold uuidBytes at hs
    cases hu : L.uuidParse s with
    | none => simp [hu, context, Except.map] at hs
    | some u => exact ⟨u, rfl, by simpa [hu, context, Except.map, eq_comm] using hs⟩
  obtain ⟨jti, hjti', rfl⟩ := hparse _ _ hjti
  obtain ⟨uuid, huuid', rfl⟩ := hparse _ _ huuid
  have htsNonneg : 0 ≤ i.ts ∧ ts = i.ts.toNat := by
    unfold u64OfInt at hts
    split at hts
    · next hnonneg => exact ⟨hnonneg, (Except.ok.inj hts).symm⟩
    · cases hts
  obtain ⟨hnonneg, rfl⟩ := htsNonneg
  refine ⟨⟨jti, uuid, device, sig, eph, ttl, hjti', huuid', hdevice, by simpa using hdevlen, hsig,
    by simpa using hsiglen, ?_, ?_, heph, hnonneg, httl⟩, ?_⟩
  · intro un hmem
    rw [Option.mem_def.mp hmem] at hun
    simpa using hun
  · have hboth : (Utf8.encode i.server).isEmpty = false ∧ (Utf8.encode i.server).length ≤ 255 := by
      simpa using hserver
    exact hboth.2
  · rw [← Except.ok.inj hdata, Option.isSome_map, Option.map_map]
    rfl

/-! ### Reading it back -/

theorem length_ephBytes {i : Invite} {eph : Bytes} (h : ephBytes L i = .ok eph) :
    eph.length = if i.v ≤ 3 then 32 else 0 := by
  unfold ephBytes at h
  split at h
  · next hv =>
    simp only [bind_eq_ok, ensure_eq_ok] at h
    obtain ⟨eph', -, u, hlen, heq⟩ := h
    obtain rfl := Except.ok.inj heq
    rw [if_pos hv]
    simpa using hlen
  · next hv =>
    obtain rfl := Except.ok.inj h
    rw [if_neg hv]
    rfl

/-- The field that carries the ephemeral key. -/
def ephText (L : InviteLibs) (v : UInt8) (eph : Bytes) : String :=
  if v ≤ 3 then L.b64Encode eph else ""

theorem length_ttlBytes {i : Invite} {ttl : Bytes} (h : ttlBytes i = .ok ttl) :
    ttl.length = if 5 ≤ i.v then 4 else 0 := by
  unfold ttlBytes at h
  split at h
  · next hv =>
    simp only [bind_eq_ok, context_eq_ok] at h
    obtain ⟨t, -, heq⟩ := h
    obtain rfl := Except.ok.inj heq
    rw [if_pos hv]
    rfl
  · next hv =>
    obtain rfl := Except.ok.inj h
    rw [if_neg hv]
    rfl

/-- The lifetime that is written is the invite's. -/
theorem ofBe_ttlBytes {i : Invite} {ttl : Bytes} (h : ttlBytes i = .ok ttl)
    (httl : ∀ t ∈ i.ttl, t < 2 ^ 32) (hv : 5 ≤ i.v) : i.ttl = some (ofBe ttl) := by
  unfold ttlBytes at h
  rw [if_pos hv] at h
  simp only [bind_eq_ok, context_eq_ok] at h
  obtain ⟨t, ht, heq⟩ := h
  obtain rfl := Except.ok.inj heq
  rw [ht, ofBe_be32 (httl t ht)]

/-- What is written makes up a binary invite. -/
def Written.civ1 {i : Invite} (w : Written L i) : Civ1 where
  flags := if (trimmedUsername i.un).isSome then 1 else 0
  v := i.v
  jti := w.jti
  uuid := w.uuid
  device := w.device
  device_length := w.device_length
  ephKey := w.eph
  ephKey_length := length_ephBytes w.heph
  time := be64 i.ts.toNat
  time_length := length_be64 _
  sig := w.sig
  sig_length := w.sig_length
  server := ⟨i.server, w.server_length⟩
  un := (trimmedUsername i.un).pmap Subtype.mk w.un_length
  un_flagged := by
    rw [Option.isSome_pmap]
    cases (trimmedUsername i.un).isSome <;> decide
  ttl := w.ttl
  ttl_length := length_ttlBytes w.httl

theorem Written.bytes_civ1 {i : Invite} (w : Written L i) : w.civ1.bytes = w.data := by
  have hun : (w.civ1.un.map ShortText.bytes) = (trimmedUsername i.un).map fun un =>
      UInt8.ofNat (Utf8.encode un).length :: Utf8.encode un := by
    unfold civ1
    rw [Option.map_pmap]
    exact Option.pmap_eq_map _ (fun un => UInt8.ofNat (Utf8.encode un).length :: Utf8.encode un) _
      w.un_length
  unfold Civ1.bytes data
  rw [hun]
  rfl

theorem ts_be64 {ts : ℤ} (h : 0 ≤ ts) (h' : ts < 2 ^ 63) :
    (BitVec.ofNat 64 (ofBe (be64 ts.toNat))).toInt = ts := by
  rw [ofBe_be64 (by omega), BitVec.toInt_ofNat', Int.bmod_eq_of_le (by omega) (by omega)]
  omega

theorem Written.ts_civ1 {i : Invite} (w : Written L i) (hts : i.ts < 2 ^ 63) : w.civ1.ts = i.ts :=
  ts_be64 w.ts_nonneg hts

/-- A written invite says the invite, its fields in canonical form. -/
theorem Written.invite_civ1 {i : Invite} (w : Written L i) (hts : i.ts < 2 ^ 63)
    (httl : ∀ t ∈ i.ttl, t < 2 ^ 32) :
    w.civ1.invite L = ⟨i.v, L.uuidToString w.jti, L.uuidToString w.uuid, L.hexEncode w.device,
      i.server, ephText L i.v w.eph, i.ts, L.b64Encode w.sig, trimmedUsername i.un,
      if 5 ≤ i.v then i.ttl else none⟩ := by
  have hun : w.civ1.un.map Subtype.val = trimmedUsername i.un := by
    unfold civ1
    rw [Option.map_pmap]
    exact (Option.pmap_eq_map _ id _ w.un_length).trans Option.map_id'
  have hlife : (if 5 ≤ w.civ1.v then some (ofBe w.civ1.ttl) else none) =
      if 5 ≤ i.v then i.ttl else none := by
    change (if 5 ≤ i.v then some (ofBe w.ttl) else none) = _
    by_cases hv : 5 ≤ i.v
    · rw [if_pos hv, if_pos hv, ofBe_ttlBytes w.httl httl hv]
    · rw [if_neg hv, if_neg hv]
  unfold Civ1.invite
  rw [w.ts_civ1 hts, hun, hlife]
  rfl

/-- A written invite is accepted if its time and lifetime are allowed. -/
theorem Written.decodeBinary_data {i j : Invite} (w : Written L i) {clock : Option UInt64} :
    decodeBinary L clock w.data = .ok j ↔
      w.civ1.Timely (nowUnix clock) ∧ w.civ1.invite L = j := by
  rw [← w.bytes_civ1, decodeBinary_eq_ok]
  constructor
  · rintro ⟨c, hc, htimely, hinvite⟩
    obtain rfl := Civ1.eq_of_starts (hc ▸ List.prefix_rfl : c.bytes <+: w.civ1.bytes)
    exact ⟨htimely, hinvite⟩
  · rintro ⟨htimely, hinvite⟩
    exact ⟨_, rfl, htimely, hinvite⟩

/-! ### Minted invites -/

theorem nowUnix_lt (clock : Option UInt64) : nowUnix clock < 2 ^ 63 := by
  unfold nowUnix
  cases clock with
  | none => decide
  | some secs => exact Int64.toInt_lt secs.toInt64

theorem trimmedUsername_idem (un : Option String) :
    trimmedUsername (trimmedUsername un) = trimmedUsername un := by
  cases un with
  | none => rfl
  | some s =>
    have htrim : trimChars (trimChars s.toList) = trimChars s.toList :=
      trimChars_of_bare (bare_trimChars s.toList)
    unfold trimmedUsername
    by_cases hempty : String.ofList (trimChars s.toList) = ""
    · simp [hempty, Option.filter_some]
    · simp [hempty, htrim, Option.filter_some]

theorem toLowercase_uuidToString (u : UuidBytes) :
    L.tables.toLowercase (L.uuidToString u) = L.uuidToString u := by
  refine CaseTables.toLowercase_of_fixed fun c hc => ?_
  have hle (a b : Char) (hab : a ≤ b) : a.toNat ≤ b.toNat := hab
  have hlower (h : ¬('A' ≤ c ∧ c ≤ 'Z')) : c.toLower = c := dif_neg h
  rcases L.mem_uuidToString u c hc with ⟨h₁, h₂⟩ | ⟨h₁, h₂⟩ | rfl
  · have h₃ : c.toNat ≤ 57 := hle _ _ h₂
    refine CaseTables.fixed_of_ascii (by omega) (hlower fun h => ?_)
    have h₄ : 65 ≤ c.toNat := hle _ _ h.1
    omega
  · have h₃ : 97 ≤ c.toNat := hle _ _ h₁
    have h₃' : c.toNat ≤ 102 := hle _ _ h₂
    refine CaseTables.fixed_of_ascii (by omega) (hlower fun h => ?_)
    have h₄ : c.toNat ≤ 90 := hle _ _ h.2
    omega
  · exact CaseTables.fixed_of_ascii (by decide) (by decide)

/-- What a minted invite looks like. -/
structure Minted (L : InviteLibs) (clock : Option UInt64) (signingKeyHex : String) (i : Invite) :
    Prop where
  v : i.v = 5
  jti : ∃ u, i.jti = L.uuidToString u
  uuid : ∃ u, i.uuid = L.uuidToString u
  deviceId : ∀ c ∈ i.deviceId.toList, L.tables.Fixed c
  ephKey : i.ephKey = ""
  ts : i.ts = nowUnix clock
  un : trimmedUsername i.un = i.un
  ttl : ∃ ttl : UInt32, i.ttl = some ttl.toNat ∧ 60 ≤ ttl.toNat
  signed : ∃ canonical signingKey sig, canonicalString L i = .ok canonical ∧
    L.hexDecode signingKeyHex = some signingKey ∧ i.sig = L.b64Encode sig ∧
    L.verify (L.verifyingKey signingKey) (Utf8.encode canonical) sig

theorem minted {userId deviceId serverUrl signingKeyHex : String} {username : Option String}
    {ttl : UInt32} {jti : UuidBytes} {clock : Option UInt64} {i : Invite}
    (h : mint L userId deviceId serverUrl signingKeyHex username ttl jti clock = .ok i) :
    Minted L clock signingKeyHex i := by
  unfold mint at h
  simp only [bind_eq_ok, context_eq_ok, ensure_eq_ok] at h
  obtain ⟨_, httl, user, -, _, -, canonical, hcanonical, signingKey, hkey, _, -, _, hverify,
    hi⟩ := h
  obtain rfl := Except.ok.inj hi
  refine ⟨rfl, ⟨jti, rfl⟩, ⟨user, toLowercase_uuidToString user⟩, ?_, rfl, rfl,
    trimmedUsername_idem username, ⟨ttl, rfl, by simpa using httl⟩,
    ⟨canonical, signingKey, _, hcanonical, hkey, rfl, hverify⟩⟩
  exact fun c hc => CaseTables.fixed_of_mem_toLowercase hc

/-- The binary of a minted invite is read back to the invite. -/
theorem decodeBinary_minted {clock clock' : Option UInt64} {signingKeyHex : String} {i : Invite}
    (h : Minted L clock signingKeyHex i) (hpos : 0 < i.ts) (hle : i.ts ≤ nowUnix clock' + 300)
    {data : Bytes} (hdata : encodeBinary L i = .ok data) :
    magic <+: data ∧ decodeBinary L clock' data = .ok i := by
  obtain ⟨w, rfl⟩ := exists_written hdata
  refine ⟨List.prefix_append magic _, ?_⟩
  obtain ⟨ttl, httl, hfloor⟩ := h.ttl
  have hts : i.ts < 2 ^ 63 := h.ts ▸ nowUnix_lt clock
  have hbound : ∀ t ∈ i.ttl, t < 2 ^ 32 := by
    rintro t ht
    obtain rfl := Option.some.inj (httl.symm.trans ht)
    exact ttl.toNat_lt
  have huuid {s : String} {u : UuidBytes} (hs : ∃ u, s = L.uuidToString u)
      (hu : L.uuidParse s = some u) : L.uuidToString u = s := by
    obtain ⟨u', rfl⟩ := hs
    rw [L.uuidParse_toString] at hu
    rw [Option.some.inj hu]
  have hsig : L.b64Encode w.sig = i.sig := by
    obtain ⟨_, _, sig, _, _, heq, _⟩ := h.signed
    have hw := w.hsig
    rw [heq, L.b64_decode_encode] at hw
    rw [heq, Option.some.inj hw]
  have hdevice := L.hexEncode_of_decode _ _ w.hdevice fun c hc => (h.deviceId c hc).not_upper
  refine w.decodeBinary_data.mpr ⟨⟨?_, ?_, fun hv => ?_⟩, ?_⟩
  · rwa [w.ts_civ1 hts]
  · rwa [w.ts_civ1 hts]
  · have hwritten : ofBe w.ttl = ttl.toNat :=
      Option.some.inj ((ofBe_ttlBytes w.httl hbound hv).symm.trans httl)
    exact hwritten.symm ▸ hfloor
  · have hfive : (5 : UInt8) ≤ 5 := by decide
    have hthree : ¬(5 : UInt8) ≤ 3 := by decide
    rw [w.invite_civ1 hts hbound, huuid h.jti w.hjti, huuid h.uuid w.huuid, hdevice, hsig,
      h.un, h.v,
      if_pos hfive, ephText, if_neg hthree, ← h.v, ← h.ephKey]

/-! ### Texts that carry a payload -/

/-- Characters of base64 in the dialect for URLs. -/
def isUrlChar (c : Char) : Prop := c.isAlphanum ∨ c = '-' ∨ c = '_'

instance (c : Char) : Decidable (isUrlChar c) := inferInstanceAs (Decidable (_ ∨ _ ∨ _))

theorem isUrlChar.not_whitespace {c : Char} (h : isUrlChar c) : isWhitespace c = false := by
  rcases h with h | rfl | rfl
  · have hrange : (48 ≤ c.toNat ∧ c.toNat ≤ 57) ∨ (65 ≤ c.toNat ∧ c.toNat ≤ 90) ∨
        (97 ≤ c.toNat ∧ c.toNat ≤ 122) := by
      have halphanum : c.isAlphanum = (decide (c.val ≥ 'A'.val ∧ c.val ≤ 'Z'.val) ||
        (c.val ≥ 'a'.val && c.val ≤ 'z'.val) || (c.val ≥ '0'.val && c.val ≤ '9'.val)) := rfl
      simp only [halphanum, Bool.or_eq_true, Bool.and_eq_true, decide_eq_true_eq] at h
      rcases h with (h | h) | h
      · exact .inr (.inl h)
      · exact .inr (.inr h)
      · exact .inl h
    unfold isWhitespace
    simp only [Bool.or_eq_false_iff, Bool.and_eq_false_iff, decide_eq_false_iff_not]
    omega
  · decide
  · decide

theorem isUrlChar.ne {c d : Char} (h : isUrlChar c) (hd : ¬isUrlChar d) : c ≠ d :=
  fun heq => hd (heq ▸ h)

theorem bare_of_forall {cs : List Char} (h : ∀ c ∈ cs, isWhitespace c = false) : Bare cs :=
  ⟨fun c hc => h c (List.mem_of_mem_head? hc), fun c hc => h c (List.mem_of_getLast? hc)⟩

section Payload

variable {payload : List Char} (hchars : ∀ c ∈ payload, isUrlChar c)

include hchars

theorem bare_payload : Bare payload := bare_of_forall fun c hc => (hchars c hc).not_whitespace

/-- A payload alone carries itself. -/
theorem extractInviteParam_payload : extractInviteParam payload = none := by
  unfold extractInviteParam
  have heq : '=' ∉ payload := fun hmem => (hchars _ hmem).ne (d := '=') (by decide) rfl
  rw [afterText_eq_none (c := '=') (by decide) heq]
  rfl

/-- A link carries what follows `invite=`, up to the next parameter. -/
theorem extractInviteParam_link {pre rest : List Char} (hpre : 'i' ∉ pre)
    (hrest : rest.head? = none ∨ rest.head? = some '&') :
    extractInviteParam (pre ++ "invite=".toList ++ payload ++ rest) = some payload := by
  unfold extractInviteParam
  have hafter : afterText "invite=".toList (pre ++ ("invite=".toList ++ (payload ++ rest))) =
      some (payload ++ rest) := afterText_append hpre (payload ++ rest)
  rw [List.append_assoc, List.append_assoc, hafter, Option.map_some]
  have htake : (payload ++ rest).takeWhile (fun c => c ≠ '&') = payload := by
    have hall : ∀ c ∈ payload, decide (c ≠ '&') = true := by
      intro c hc
      simpa using (hchars c hc).ne (d := '&') (by decide)
    rw [List.takeWhile_append_of_pos hall]
    cases rest with
    | nil => simp
    | cons c rest =>
      obtain rfl : c = '&' := by simpa using hrest
      simp
  rw [htake]

end Payload

/-- The texts that carry a payload: alone, or in a link with more parameters behind, and white space
around. -/
inductive Carries (payload : List Char) : List Char → Prop
  | alone {pre tail : List Char} (hpre : ∀ c ∈ pre, isWhitespace c)
      (htail : ∀ c ∈ tail, isWhitespace c) : Carries payload (pre ++ (payload ++ tail))
  | link {pre start query tail : List Char} (hpre : ∀ c ∈ pre, isWhitespace c)
      (hstart : start = httpsAdd.toList ∨ start = schemeAdd.toList)
      (hquery : query.head? = none ∨ query.head? = some '&')
      (htail : ∀ c ∈ tail, isWhitespace c) :
      Carries payload (pre ++ (start ++ payload ++ (query ++ tail)))

/-- Both links end in `invite=`, which they hold nowhere else. -/
theorem exists_linkStart {start : List Char}
    (h : start = httpsAdd.toList ∨ start = schemeAdd.toList) :
    ∃ first init, start = first :: init ++ "invite=".toList ∧ 'i' ∉ first :: init ∧
      isWhitespace first = false := by
  rcases h with rfl | rfl
  · exact ⟨'h', "ttps://konstruct.cc/add?".toList, by decide, by decide, by decide⟩
  · exact ⟨'k', "onstruct://add?".toList, by decide, by decide, by decide⟩

theorem decodePayload_url {data : Bytes} :
    decodePayload L (L.b64urlEncode data).toList = some data := by
  unfold decodePayload
  rw [trimChars_of_bare (bare_payload fun c hc => L.mem_b64urlEncode data c hc),
    String.ofList_toList]
  dsimp only
  rw [L.b64url_decode_encode]
  rfl

/-- A text that carries a payload has its bytes. -/
theorem payloadBytes_of_carries {data : Bytes} {raw : String}
    (h : Carries (L.b64urlEncode data).toList raw.toList) : payloadBytes L raw = some data := by
  have hchars : ∀ c ∈ (L.b64urlEncode data).toList, isUrlChar c := L.mem_b64urlEncode data
  unfold payloadBytes
  generalize raw.toList = cs at h
  cases h with
  | alone hpre htail =>
    rw [trimChars_pad hpre (bare_payload hchars) htail]
    dsimp only
    rw [extractInviteParam_payload hchars]
    exact decodePayload_url
  | @link pre start query tail hpre hstart hquery htail =>
    obtain ⟨first, init, rfl, hinit, hfirst⟩ := exists_linkStart hstart
    have hbare : Bare (first :: init ++ "invite=".toList ++ (L.b64urlEncode data).toList) := by
      refine ⟨?_, fun c hc => ?_⟩
      · rintro c hc
        obtain rfl : first = c := by simpa using hc
        exact hfirst
      · rw [Option.mem_def, List.getLast?_append] at hc
        cases hlast : (L.b64urlEncode data).toList.getLast? with
        | none =>
          rw [hlast, Option.none_or, List.getLast?_append] at hc
          obtain rfl : '=' = c := by simpa using hc
          decide
        | some d =>
          rw [hlast] at hc
          obtain rfl : d = c := by simpa using hc
          exact (hchars d (List.mem_of_getLast? hlast)).not_whitespace
    obtain ⟨rest, hrest, htrim⟩ : ∃ rest : List Char,
        (rest.head? = none ∨ rest.head? = some '&') ∧ trimChars (pre ++ (first :: init ++
          "invite=".toList ++ (L.b64urlEncode data).toList ++ (query ++ tail))) =
          first :: init ++ "invite=".toList ++ (L.b64urlEncode data).toList ++ rest := by
      cases query with
      | nil =>
        refine ⟨[], .inl rfl, ?_⟩
        rw [List.nil_append, trimChars_pad hpre hbare htail, List.append_nil]
      | cons c query =>
        obtain rfl : c = '&' := by simpa using hquery
        obtain ⟨rest, hprefix, htrim⟩ := trimChars_around ('&' :: query ++ tail) hpre hbare
          (List.cons_ne_nil first _)
        refine ⟨rest, ?_, htrim⟩
        cases rest with
        | nil => exact .inl rfl
        | cons d rest =>
          obtain ⟨rfl, -⟩ := List.cons_prefix_cons.mp hprefix
          exact .inr rfl
    rw [htrim]
    dsimp only
    rw [extractInviteParam_link hchars hinit hrest]
    exact decodePayload_url

/-- What is minted comes back: the invite that is parsed from its base64, or from a link with other
parameters behind, is the one minted, and its signature verifies over its canonical string. -/
theorem parseInvite_minted {userId deviceId serverUrl signingKeyHex : String}
    {username : Option String} {ttl : UInt32} {jti : UuidBytes} {clock clock' : Option UInt64}
    {i : Invite} {text pre query tail : String}
    (hmint : mint L userId deviceId serverUrl signingKeyHex username ttl jti clock = .ok i)
    (hpos : 0 < i.ts) (hle : i.ts ≤ nowUnix clock' + 300)
    (htext : toBase64url L i = .ok text ∧ query = "" ∨
      (httpsLink L i = .ok text ∨ schemeLink L i = .ok text) ∧
        (query = "" ∨ query.toList.head? = some '&'))
    (hpre : ∀ c ∈ pre.toList, isWhitespace c) (htail : ∀ c ∈ tail.toList, isWhitespace c) :
    parseInvite L clock' (pre ++ text ++ query ++ tail) = .ok i ∧ ∃ canonical signingKey sig,
      canonicalString L i = .ok canonical ∧ L.hexDecode signingKeyHex = some signingKey ∧
      L.b64Decode i.sig = some sig ∧
      L.verify (L.verifyingKey signingKey) (Utf8.encode canonical) sig := by
  have h := minted hmint
  have hcarries : ∃ data, encodeBinary L i = .ok data ∧
      Carries (L.b64urlEncode data).toList (pre ++ text ++ query ++ tail).toList := by
    cases hdata : encodeBinary L i with
    | error e => simp [httpsLink, schemeLink, toBase64url, hdata, Except.map] at htext
    | ok data =>
      simp only [httpsLink, schemeLink, toBase64url, hdata, Except.map, Except.ok.injEq] at htext
      refine ⟨data, rfl, ?_⟩
      rcases htext with ⟨rfl, rfl⟩ | ⟨hlink, hquery⟩
      · simpa using @Carries.alone (L.b64urlEncode data).toList _ _ hpre htail
      · obtain ⟨start, hstart, rfl⟩ : ∃ start : String,
            (start.toList = httpsAdd.toList ∨ start.toList = schemeAdd.toList) ∧
              start ++ L.b64urlEncode data = text := by
          rcases hlink with rfl | rfl
          · exact ⟨httpsAdd, .inl rfl, rfl⟩
          · exact ⟨schemeAdd, .inr rfl, rfl⟩
        have hhead : query.toList.head? = none ∨ query.toList.head? = some '&' := by
          rcases hquery with rfl | hquery
          · exact .inl rfl
          · exact .inr hquery
        simpa using @Carries.link (L.b64urlEncode data).toList _ _ _ _ hpre hstart hhead htail
  obtain ⟨data, hdata, hcarries⟩ := hcarries
  constructor
  · obtain ⟨hmagic, hdecode⟩ := decodeBinary_minted h hpos hle hdata
    unfold parseInvite
    rw [payloadBytes_of_carries hcarries]
    dsimp only
    rw [if_pos (List.isPrefixOf_iff_prefix.mpr hmagic)]
    exact hdecode
  · obtain ⟨canonical, signingKey, sig, hcanonical, hkey, hsig, hverify⟩ := h.signed
    exact ⟨canonical, signingKey, sig, hcanonical, hkey, hsig ▸ L.b64_decode_encode sig, hverify⟩

/-- Surroundings with the key pair of thirty-two sevens, and its signature of the string
`5|11111111-1111-4111-8111-111111111111|22222222-2222-4222-8222-222222222222|`
`0123456789abcdef0123456789abcdef|konstruct.cc|1700000000|fox|300`. -/
def sevens : InviteLibs := .plain
  [0xEA, 0x4A, 0x6C, 0x63, 0xE2, 0x9C, 0x52, 0x0A, 0xBE, 0xF5, 0x50, 0x7B, 0x13, 0x2E,
    0xC5, 0xF9, 0x95, 0x47, 0x76, 0xAE, 0xBE, 0xBE, 0x7B, 0x92, 0x42, 0x1E, 0xEA, 0x69,
    0x14, 0x46, 0xD2, 0x2C]
  ⟨[0xAF, 0xD4, 0xD2, 0x7B, 0x34, 0xFF, 0xC2, 0xA0, 0xEB, 0x47, 0x8F, 0x43, 0x6A, 0xF7,
    0xF2, 0x28, 0xBC, 0xE9, 0x01, 0x87, 0x7B, 0xBC, 0x3A, 0x8D, 0x36, 0xC5, 0x73, 0x49,
    0xE5, 0x22, 0x80, 0x83, 0xBA, 0x14, 0xAD, 0x0C, 0x28, 0x5F, 0xB0, 0xA9, 0x23, 0x71,
    0xAD, 0x81, 0xC6, 0x2B, 0x5A, 0x8C, 0x86, 0xC7, 0xD1, 0xEC, 0x07, 0x08, 0xC6, 0xA1,
    0xD7, 0x7D, 0x68, 0x79, 0x5E, 0x1E, 0x29, 0x04],
    rfl⟩
  fun _ => .error "expected value"

/-- An invite of a user `fox`. -/
def foxInvite : Except String Invite :=
  mint sevens "22222222-2222-4222-8222-222222222222" "0123456789ABCDEF0123456789abcdef"
    "https://konstruct.cc:443" (String.ofList (Hex.encode (List.replicate 32 7))) (some " fox ") 300
    ⟨[0x11, 0x11, 0x11, 0x11, 0x11, 0x11, 0x41, 0x11,
      0x81, 0x11, 0x11, 0x11, 0x11, 0x11, 0x11, 0x11],
      rfl⟩ (some 1700000000)

/-- Its link, with another parameter behind and white space around, gives it back. -/
theorem parseInvite_fox : ∃ i text, foxInvite = .ok i ∧ httpsLink sevens i = .ok text ∧
    parseInvite sevens (some 1700000060) (" " ++ text ++ "&utm=1" ++ "\n") = .ok i := by
  have hrun : (do
      let i ← foxInvite
      let _ ← httpsLink sevens i
      return i.ts : Except String ℤ) = .ok 1700000000 := by decide +kernel
  obtain ⟨i, hmint, hrun⟩ := bind_eq_ok.mp hrun
  obtain ⟨text, htext, hts⟩ := bind_eq_ok.mp hrun
  have hts : i.ts = 1700000000 := Except.ok.inj hts
  have hclock : nowUnix (some 1700000060) = 1700000060 := by decide
  refine ⟨i, text, hmint, htext, (parseInvite_minted hmint ?_ ?_ (.inr ⟨.inl htext, .inr rfl⟩)
    (by simp [isWhitespace]) (by simp [isWhitespace])).1⟩
  · rw [hts]
    decide
  · rw [hts, hclock]
    decide

end Invite

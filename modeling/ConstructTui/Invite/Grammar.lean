import ConstructTui.Invite.Basic

/-!
# The grammar of the binary invite

A binary invite is a fixed header, fields of fixed length of which one depends on the version, two
texts behind their lengths of which one depends on a flag, and a lifetime that depends on the
version. Reading succeeds on exactly these strings, and none of them starts another.

## Main definitions

* `Civ1`, `Civ1.bytes`: the parts of a binary invite, and the string they make up.
* `Civ1.Timely`: the checks on its time and lifetime.
* `Civ1.invite`: the invite it says.

## Main results

* `Invite.readBinary_eq_ok`: what is read.
* `Civ1.eq_of_starts`: no binary invite starts another.
* `Invite.decodeBinary_eq_ok`: what is accepted.
-/

open BigEndian

/-- A text that its length fits in a byte. -/
abbrev ShortText := { s : String // (Utf8.encode s).length ≤ 255 }

/-- A text behind its length. -/
def ShortText.bytes (s : ShortText) : Bytes :=
  UInt8.ofNat (Utf8.encode s.val).length :: Utf8.encode s.val

theorem ShortText.append_inj {s t : ShortText} {xs ys : Bytes} (h : s.bytes ++ xs = t.bytes ++ ys) :
    s = t ∧ xs = ys := by
  obtain ⟨hlen, hrest⟩ := List.cons.inj h
  have hlen' : (Utf8.encode s.val).length = (Utf8.encode t.val).length := by
    have hs := s.property
    have ht := t.property
    have hnat := congrArg UInt8.toNat hlen
    rw [UInt8.toNat_ofNat', UInt8.toNat_ofNat'] at hnat
    omega
  obtain ⟨htext, hrest⟩ := List.append_inj hrest hlen'
  have hdecode := congrArg Utf8.decode? htext
  rw [Utf8.decode?_encode, Utf8.decode?_encode] at hdecode
  exact ⟨Subtype.ext (Option.some.inj hdecode), hrest⟩

/-- The parts of a binary invite. -/
@[ext] structure Civ1 where
  flags : UInt8
  v : UInt8
  jti : UuidBytes
  uuid : UuidBytes
  device : Bytes
  device_length : device.length = 16
  ephKey : Bytes
  ephKey_length : ephKey.length = if v ≤ 3 then 32 else 0
  time : Bytes
  time_length : time.length = 8
  sig : Bytes
  sig_length : sig.length = 64
  server : ShortText
  un : Option ShortText
  un_flagged : un.isSome ↔ flags &&& 1 ≠ 0
  ttl : Bytes
  ttl_length : ttl.length = if 5 ≤ v then 4 else 0

namespace Civ1

/-- The string that the parts make up. -/
def bytes (c : Civ1) : Bytes :=
  Invite.magic ++ ([c.flags, c.v] ++ (c.jti.val ++ (c.uuid.val ++ (c.device ++ (c.ephKey ++
    (c.time ++ (c.sig ++ (c.server.bytes ++ ((c.un.map ShortText.bytes).getD [] ++ c.ttl)))))))))

/-- The time, a signed number. -/
def ts (c : Civ1) : ℤ := (BitVec.ofNat 64 (ofBe c.time)).toInt

/-- The time is positive and not in the future but for the skew, and a lifetime is not below the
floor. -/
structure Timely (now : ℤ) (c : Civ1) : Prop where
  pos : 0 < c.ts
  le : c.ts ≤ now + 300
  floor : 5 ≤ c.v → 60 ≤ ofBe c.ttl

/-- The invite that the parts say. -/
def invite (L : InviteLibs) (c : Civ1) : Invite where
  v := c.v
  jti := L.uuidToString c.jti
  uuid := L.uuidToString c.uuid
  deviceId := L.hexEncode c.device
  server := c.server.val
  ephKey := if c.v ≤ 3 then L.b64Encode c.ephKey else ""
  ts := c.ts
  sig := L.b64Encode c.sig
  un := c.un.map Subtype.val
  ttl := if 5 ≤ c.v then some (ofBe c.ttl) else none

/-- Parts that start other parts are the same. -/
theorem eq_of_starts {c c' : Civ1} (h : c.bytes <+: c'.bytes) : c = c' := by
  obtain ⟨extra, h⟩ := h
  unfold bytes at h
  simp only [List.append_assoc, List.cons_append, List.nil_append] at h
  have h := List.append_cancel_left h
  obtain ⟨hflags, h⟩ := List.cons.inj h
  obtain ⟨hv, h⟩ := List.cons.inj h
  obtain ⟨hjti, h⟩ := List.append_inj h (c.jti.property.trans c'.jti.property.symm)
  obtain ⟨huuid, h⟩ := List.append_inj h (c.uuid.property.trans c'.uuid.property.symm)
  obtain ⟨hdevice, h⟩ := List.append_inj h (c.device_length.trans c'.device_length.symm)
  obtain ⟨hephKey, h⟩ := List.append_inj h (by rw [c.ephKey_length, c'.ephKey_length, hv])
  obtain ⟨htime, h⟩ := List.append_inj h (c.time_length.trans c'.time_length.symm)
  obtain ⟨hsig, h⟩ := List.append_inj h (c.sig_length.trans c'.sig_length.symm)
  obtain ⟨hserver, h⟩ := ShortText.append_inj h
  -- the flags say of both whether a name follows
  obtain ⟨hun, h⟩ : c.un = c'.un ∧ c.ttl ++ extra = c'.ttl := by
    have hflagged : c.un.isSome ↔ c'.un.isSome := by rw [c.un_flagged, c'.un_flagged, hflags]
    cases hc : c.un with
    | none =>
      cases hc' : c'.un with
      | none => exact ⟨rfl, by simpa [hc, hc'] using h⟩
      | some t => simp [hc, hc'] at hflagged
    | some s =>
      cases hc' : c'.un with
      | none => simp [hc, hc'] at hflagged
      | some t =>
        simp only [hc, hc', Option.map_some, Option.getD_some] at h
        obtain ⟨rfl, hrest⟩ := ShortText.append_inj h
        exact ⟨rfl, hrest⟩
  have httl : c.ttl = c'.ttl := by
    have hlen : c.ttl.length = c'.ttl.length := by rw [c.ttl_length, c'.ttl_length, hv]
    exact (List.append_inj (h.trans (List.append_nil _).symm) hlen).1
  exact Civ1.ext hflags hv (Subtype.ext hjti) (Subtype.ext huuid) hdevice hephKey htime hsig hserver
    hun httl

end Civ1

/-! ### Reading -/

namespace Invite

open Checked (bind_eq_ok)

variable {L : InviteLibs}

namespace Reader

theorem text_eq_ok {n : ℕ} {msg : String} {data rest : Bytes} {s : String} :
    text n msg data = .ok (s, rest) ↔ (Utf8.encode s).length = n ∧
      data = Utf8.encode s ++ rest := by
  constructor
  · intro h
    unfold text at h
    obtain ⟨bs, rest', htake, hs⟩ := bind_eq_ok.mp h
    obtain ⟨hcontext, rfl⟩ := lift_eq_ok.mp hs
    obtain ⟨hlen, rfl⟩ := take_eq_ok.mp htake
    rw [Utf8.encode_of_decode? (context_eq_ok.mp hcontext)]
    exact ⟨hlen, rfl⟩
  · rintro ⟨rfl, rfl⟩
    exact text_encode s msg rest

/-- A text behind its length. -/
theorem shortText_eq_ok {msg : String} {data rest : Bytes} {s : String} :
    (u8 >>= fun n => text n.toNat msg) data = .ok (s, rest) ↔
      ∃ t : ShortText, t.val = s ∧ data = t.bytes ++ rest := by
  constructor
  · intro h
    obtain ⟨n, rest', hn, hs⟩ := bind_eq_ok.mp h
    obtain rfl := u8_eq_ok.mp hn
    obtain ⟨hlen, rfl⟩ := text_eq_ok.mp hs
    have hle : (Utf8.encode s).length ≤ 255 := by
      have hlt := n.toNat_lt
      omega
    refine ⟨⟨s, hle⟩, rfl, ?_⟩
    have hn : UInt8.ofNat (Utf8.encode s).length = n := by rw [hlen, UInt8.ofNat_toNat]
    unfold ShortText.bytes
    rw [hn]
    rfl
  · rintro ⟨⟨s, hle⟩, rfl, rfl⟩
    have hlen : (UInt8.ofNat (Utf8.encode s).length).toNat = (Utf8.encode s).length := by
      rw [UInt8.toNat_ofNat']
      omega
    unfold ShortText.bytes
    rw [List.cons_append, bind_of_ok (u8_eq_ok.mpr rfl), hlen]
    exact text_encode s msg rest

end Reader

theorem uuidString_eq_ok {bs : Bytes} {s : String} :
    uuidString L bs = .ok s ↔ ∃ u : UuidBytes, u.val = bs ∧ L.uuidToString u = s := by
  constructor
  · intro h
    unfold uuidString at h
    split at h
    · next hlen => exact ⟨⟨bs, hlen⟩, rfl, Except.ok.inj h⟩
    · cases h
  · rintro ⟨u, rfl, rfl⟩
    exact uuidString_val L u

theorem readEphKey_eq_ok {v : UInt8} {data rest : Bytes} {s : String} :
    readEphKey L v data = .ok (s, rest) ↔ ∃ key : Bytes, key.length = (if v ≤ 3 then 32 else 0) ∧
      data = key ++ rest ∧ s = if v ≤ 3 then L.b64Encode key else "" := by
  unfold readEphKey
  by_cases hv : v ≤ 3
  · simp only [if_pos hv, Reader.bind_eq_ok, Reader.take_eq_ok]
    constructor
    · rintro ⟨key, rest', ⟨hlen, rfl⟩, hs⟩
      obtain ⟨rfl, rfl⟩ := Prod.mk.inj (Except.ok.inj hs)
      exact ⟨key, hlen, rfl, rfl⟩
    · rintro ⟨key, hlen, rfl, rfl⟩
      exact ⟨key, rest, ⟨hlen, rfl⟩, rfl⟩
  · simp only [if_neg hv]
    constructor
    · intro hs
      obtain ⟨rfl, rfl⟩ := Prod.mk.inj (Except.ok.inj hs)
      exact ⟨[], rfl, rfl, rfl⟩
    · rintro ⟨key, hlen, rfl, rfl⟩
      obtain rfl := List.eq_nil_of_length_eq_zero hlen
      rfl

theorem readUsername_eq_ok {flags : UInt8} {data rest : Bytes} {un : Option String} :
    readUsername flags data = .ok (un, rest) ↔ ∃ t : Option ShortText,
      (t.isSome ↔ flags &&& 1 ≠ 0) ∧ t.map Subtype.val = un ∧
        data = (t.map ShortText.bytes).getD [] ++ rest := by
  unfold readUsername
  by_cases hflag : flags &&& 1 ≠ 0
  · rw [if_pos hflag]
    have hread : (do
        let n ← Reader.u8
        return some (← Reader.text n.toNat "un utf8") : Reader (Option String)) =
          (Reader.u8 >>= fun n => Reader.text n.toNat "un utf8") >>= fun s => pure (some s) := by
      rw [bind_assoc]
    rw [hread, Reader.bind_eq_ok]
    constructor
    · rintro ⟨s, rest', hs, hun⟩
      obtain ⟨t, rfl, rfl⟩ := Reader.shortText_eq_ok.mp hs
      obtain ⟨rfl, rfl⟩ := Prod.mk.inj (Except.ok.inj hun)
      exact ⟨some t, ⟨fun _ => hflag, fun _ => rfl⟩, rfl, rfl⟩
    · rintro ⟨t, hsome, rfl, rfl⟩
      obtain ⟨t, rfl⟩ := Option.isSome_iff_exists.mp (hsome.mpr hflag)
      exact ⟨t.val, rest, Reader.shortText_eq_ok.mpr ⟨t, rfl, rfl⟩, rfl⟩
  · rw [if_neg hflag]
    constructor
    · intro hun
      obtain ⟨rfl, rfl⟩ := Prod.mk.inj (Except.ok.inj hun)
      exact ⟨none, iff_of_false Bool.false_ne_true hflag, rfl, rfl⟩
    · rintro ⟨t, hsome, rfl, rfl⟩
      cases t with
      | none => rfl
      | some t => exact absurd (hsome.mp rfl) hflag

theorem readTtl_eq_ok {v : UInt8} {data rest : Bytes} {ttl : Option ℕ} :
    readTtl v data = .ok (ttl, rest) ↔ ∃ bs : Bytes, bs.length = (if 5 ≤ v then 4 else 0) ∧
      data = bs ++ rest ∧ ttl = if 5 ≤ v then some (ofBe bs) else none := by
  unfold readTtl
  by_cases hv : 5 ≤ v
  · simp only [if_pos hv, Reader.bind_eq_ok, Reader.take_eq_ok]
    constructor
    · rintro ⟨bs, rest', ⟨hlen, rfl⟩, hs⟩
      obtain ⟨rfl, rfl⟩ := Prod.mk.inj (Except.ok.inj hs)
      exact ⟨bs, hlen, rfl, rfl⟩
    · rintro ⟨bs, hlen, rfl, rfl⟩
      exact ⟨bs, rest, ⟨hlen, rfl⟩, rfl⟩
  · simp only [if_neg hv]
    constructor
    · intro hs
      obtain ⟨rfl, rfl⟩ := Prod.mk.inj (Except.ok.inj hs)
      exact ⟨[], rfl, rfl, rfl⟩
    · rintro ⟨bs, hlen, rfl, rfl⟩
      obtain rfl := List.eq_nil_of_length_eq_zero hlen
      rfl

/-- What is read from a string are the parts that make it up. -/
theorem exists_of_readBinary {data rest : Bytes} {i : Invite}
    (h : readBinary L data = .ok (i, rest)) :
    rest = [] ∧ ∃ c : Civ1, c.bytes = data ∧ c.invite L = i := by
  unfold readBinary at h
  simp only [Reader.bind_eq_ok, Reader.lift_eq_ok, ensure_eq_ok] at h
  obtain ⟨start, _, hstart, h⟩ := h
  obtain ⟨_, _, ⟨hmagic, rfl⟩, h⟩ := h
  obtain ⟨flags, _, hflags, h⟩ := h
  obtain ⟨v, _, hv, h⟩ := h
  obtain ⟨_, _, hjtiBytes, h⟩ := h
  obtain ⟨_, _, ⟨hjti, rfl⟩, h⟩ := h
  obtain ⟨_, _, huuidBytes, h⟩ := h
  obtain ⟨_, _, ⟨huuid, rfl⟩, h⟩ := h
  obtain ⟨device, _, hdevice, h⟩ := h
  obtain ⟨_, _, hephKey, h⟩ := h
  obtain ⟨time, _, htime, h⟩ := h
  obtain ⟨sig, _, hsig, h⟩ := h
  obtain ⟨serverLen, _, hserverLen, h⟩ := h
  obtain ⟨_, _, hserver, h⟩ := h
  obtain ⟨_, _, hun, h⟩ := h
  obtain ⟨_, _, httl, h⟩ := h
  obtain ⟨_, _, hatEnd, h⟩ := h
  obtain ⟨_, _, ⟨hend, rfl⟩, h⟩ := h
  obtain ⟨-, rfl⟩ := Reader.take_eq_ok.mp hstart
  obtain rfl := of_decide_eq_true hmagic
  obtain rfl := Reader.u8_eq_ok.mp hflags
  obtain rfl := Reader.u8_eq_ok.mp hv
  obtain ⟨-, rfl⟩ := Reader.take_eq_ok.mp hjtiBytes
  obtain ⟨jti, rfl, rfl⟩ := uuidString_eq_ok.mp hjti
  obtain ⟨-, rfl⟩ := Reader.take_eq_ok.mp huuidBytes
  obtain ⟨uuid, rfl, rfl⟩ := uuidString_eq_ok.mp huuid
  obtain ⟨hdeviceLen, rfl⟩ := Reader.take_eq_ok.mp hdevice
  obtain ⟨ephKey, hephLen, rfl, rfl⟩ := readEphKey_eq_ok.mp hephKey
  obtain ⟨htimeLen, rfl⟩ := Reader.take_eq_ok.mp htime
  obtain ⟨hsigLen, rfl⟩ := Reader.take_eq_ok.mp hsig
  obtain ⟨server, rfl, rfl⟩ :=
    Reader.shortText_eq_ok.mp (Reader.bind_eq_ok.mpr ⟨_, _, hserverLen, hserver⟩)
  obtain ⟨un, hflagged, rfl, rfl⟩ := readUsername_eq_ok.mp hun
  obtain ⟨ttl, httlLen, rfl, rfl⟩ := readTtl_eq_ok.mp httl
  obtain ⟨rfl, rfl⟩ := Prod.mk.inj (Except.ok.inj hatEnd)
  obtain ⟨rfl, rfl⟩ := Prod.mk.inj (Except.ok.inj h)
  obtain rfl := List.isEmpty_iff.mp hend
  refine ⟨rfl, ⟨flags, v, jti, uuid, device, hdeviceLen, ephKey, hephLen, time, htimeLen, sig,
    hsigLen,
    server, un, hflagged, ttl, httlLen⟩, ?_, rfl⟩
  rw [List.append_nil]
  rfl

/-- The parts that make up a string are read from it. -/
theorem readBinary_bytes (c : Civ1) : readBinary L c.bytes = .ok (c.invite L, []) := by
  have htake {n : ℕ} {bs : Bytes} (hbs : bs.length = n) (rest : Bytes) :
      Reader.take n (bs ++ rest) = .ok (bs, rest) := Reader.take_eq_ok.mpr ⟨hbs, rfl⟩
  have huuid (u : UuidBytes) (rest : Bytes) :
      (liftM (uuidString L u.val) : Reader String) rest = .ok (L.uuidToString u, rest) :=
    Reader.lift_of_ok (uuidString_val L u) rest
  have hmagic : ensure (decide (magic = magic)) "bad CIv1 magic" = .ok () := rfl
  obtain ⟨n, rest, hlen, hserver⟩ := Reader.bind_eq_ok.mp (Reader.shortText_eq_ok.mpr
    ⟨c.server, rfl, rfl⟩ : (Reader.u8 >>= fun n => Reader.text n.toNat "server utf8")
      (c.server.bytes ++ ((c.un.map ShortText.bytes).getD [] ++ c.ttl)) = .ok (c.server.val, _))
  have httl : readTtl c.v c.ttl = .ok (if 5 ≤ c.v then some (ofBe c.ttl) else none, []) :=
    readTtl_eq_ok.mpr ⟨c.ttl, c.ttl_length, (List.append_nil _).symm, rfl⟩
  unfold readBinary Civ1.bytes
  rw [Reader.bind_of_ok (htake (show magic.length = 4 from rfl) _),
    Reader.bind_of_ok (Reader.lift_of_ok hmagic _), List.cons_append, List.cons_append,
    List.nil_append, Reader.bind_of_ok (Reader.u8_eq_ok.mpr rfl),
    Reader.bind_of_ok (Reader.u8_eq_ok.mpr rfl), Reader.bind_of_ok (htake c.jti.property _),
    Reader.bind_of_ok (huuid c.jti _), Reader.bind_of_ok (htake c.uuid.property _),
    Reader.bind_of_ok (huuid c.uuid _), Reader.bind_of_ok (htake c.device_length _),
    Reader.bind_of_ok (readEphKey_eq_ok.mpr ⟨c.ephKey, c.ephKey_length, rfl, rfl⟩),
    Reader.bind_of_ok (htake c.time_length _), Reader.bind_of_ok (htake c.sig_length _),
    Reader.bind_of_ok hlen, Reader.bind_of_ok hserver,
    Reader.bind_of_ok (readUsername_eq_ok.mpr ⟨c.un, c.un_flagged, rfl, rfl⟩),
    Reader.bind_of_ok httl]
  rfl

theorem readBinary_eq_ok {data : Bytes} {i : Invite} {rest : Bytes} :
    readBinary L data = .ok (i, rest) ↔ rest = [] ∧ ∃ c : Civ1, c.bytes = data ∧
      c.invite L = i := by
  refine ⟨exists_of_readBinary, ?_⟩
  rintro ⟨rfl, c, rfl, rfl⟩
  exact readBinary_bytes c

/-- A string is accepted as a binary invite exactly when it is one and its time and lifetime are
allowed. -/
theorem decodeBinary_eq_ok {clock : Option UInt64} {data : Bytes} {i : Invite} :
    decodeBinary L clock data = .ok i ↔
      ∃ c : Civ1, c.bytes = data ∧ c.Timely (nowUnix clock) ∧ c.invite L = i := by
  unfold decodeBinary
  simp only [bind_eq_ok, ensure_eq_ok, Bool.and_eq_true, decide_eq_true_eq]
  constructor
  · rintro ⟨⟨j, rest⟩, hread, _, ⟨hpos, hle⟩, h⟩
    obtain ⟨rfl, c, rfl, rfl⟩ := readBinary_eq_ok.mp hread
    have httl : (c.invite L).ttl = if 5 ≤ c.v then some (ofBe c.ttl) else none := rfl
    by_cases hv : 5 ≤ (c.invite L).v
    · rw [if_pos hv, httl, if_pos (show 5 ≤ c.v from hv)] at h
      simp only [bind_eq_ok, context_eq_ok, ensure_eq_ok] at h
      obtain ⟨t, ht, _, hfloor, h⟩ := h
      obtain rfl := Option.some.inj ht
      exact ⟨c, rfl, ⟨hpos, hle, fun _ => of_decide_eq_true hfloor⟩, Except.ok.inj h⟩
    · rw [if_neg hv] at h
      exact ⟨c, rfl, ⟨hpos, hle, fun hfive => absurd hfive hv⟩, Except.ok.inj h⟩
  · rintro ⟨c, rfl, ⟨hpos, hle, hfloor⟩, rfl⟩
    refine ⟨_, readBinary_bytes c, (), ⟨hpos, hle⟩, ?_⟩
    have httl : (c.invite L).ttl = if 5 ≤ c.v then some (ofBe c.ttl) else none := rfl
    by_cases hv : 5 ≤ (c.invite L).v
    · rw [if_pos hv, httl, if_pos (show 5 ≤ c.v from hv)]
      simp only [bind_eq_ok, context_eq_ok, ensure_eq_ok]
      exact ⟨_, rfl, (), decide_eq_true (hfloor hv), rfl⟩
    · rw [if_neg hv]
      rfl

end Invite

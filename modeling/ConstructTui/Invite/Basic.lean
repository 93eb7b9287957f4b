import ConstructTui.Lib.Base64
import ConstructTui.Lib.BigEndian
import ConstructTui.Lib.Checked
import ConstructTui.Lib.Hex
import ConstructTui.Lib.Text
import ConstructTui.Storage

/-!
# Contact invites

An invite is minted by a device and signed with its key. It travels as a compact binary, in base64,
alone or at the end of a link; older clients sent JSON in base64. Of the encodings the client uses
from other crates, and of the tables of Unicode behind `str::to_lowercase`, the laws are kept that
the code relies on.

## Main definitions

* `Invite`, `Invite.effectiveTtl`, `Invite.isExpired`.
* `CaseTables`, `CaseTables.toLowercase`, `InviteLibs`: what the code uses from outside.
* `Invite.canonicalString`, `Invite.encodeBinary`, `Invite.httpsLink`, `Invite.schemeLink`,
  `Invite.mint`.
* `Invite.decodeBinary`, `Invite.parseInvite`.
-/

open BigEndian

/-- An invite, as parsed. -/
structure Invite where
  v : UInt8
  jti : String
  uuid : String
  deviceId : String
  server : String
  ephKey : String
  ts : ℤ
  sig : String
  un : Option String
  ttl : Option ℕ
  deriving DecidableEq, Repr

/-- The lifetime of an invite in seconds, at most that of a link. -/
def Invite.effectiveTtl (invite : Invite) : ℕ :=
  match invite.ttl with
  | some t => min t 43200
  | none => 43200

def Invite.isExpired (invite : Invite) (now : ℤ) : Bool := invite.ts + invite.effectiveTtl < now

/-! ### From other crates -/

/-- How characters are lowered, and where a capital sigma ends a word. What has been lowered stays
as it is. -/
structure CaseTables where
  lower : Char → List Char
  isFinalSigma : List Char → List Char → Bool
  lower_lower : ∀ c, ∀ d ∈ lower c, lower d = [d] ∧ d ≠ 'Σ'
  lower_sigma : lower 'σ' = ['σ'] ∧ lower 'ς' = ['ς']
  lower_ascii : ∀ c, c.toNat < 128 → lower c = [c.toLower]
  lower_bar : ∀ c, '|' ∈ lower c → c = '|'

namespace CaseTables

variable (T : CaseTables)

/-- `str::to_lowercase`, behind the characters `before`. -/
def lowerChars (before : List Char) : List Char → List Char
  | [] => []
  | c :: cs =>
    (if c = 'Σ' then [if T.isFinalSigma before cs then 'ς' else 'σ'] else T.lower c) ++
      lowerChars (before ++ [c]) cs

def toLowercase (s : String) : String := String.ofList (T.lowerChars [] s.toList)

/-- A character that lowering leaves as it is. -/
def Fixed (c : Char) : Prop := T.lower c = [c] ∧ c ≠ 'Σ'

variable {T}

theorem fixed_of_mem_lowerChars {before cs : List Char} {c : Char}
    (h : c ∈ T.lowerChars before cs) : T.Fixed c := by
  induction cs generalizing before with
  | nil => cases h
  | cons d cs ih =>
    rw [lowerChars] at h
    rcases List.mem_append.mp h with h | h
    · split at h
      · obtain rfl := List.mem_singleton.mp h
        split
        · exact ⟨T.lower_sigma.2, by decide⟩
        · exact ⟨T.lower_sigma.1, by decide⟩
      · exact T.lower_lower d c h
    · exact ih h

theorem lowerChars_of_fixed {before cs : List Char} (h : ∀ c ∈ cs, T.Fixed c) :
    T.lowerChars before cs = cs := by
  induction cs generalizing before with
  | nil => rfl
  | cons c cs ih =>
    obtain ⟨hlower, hsigma⟩ := h c List.mem_cons_self
    rw [lowerChars, if_neg hsigma, hlower, ih fun d hd => h d (List.mem_cons_of_mem c hd)]
    rfl

theorem fixed_of_mem_toLowercase {s : String} {c : Char} (h : c ∈ (T.toLowercase s).toList) :
    T.Fixed c := by
  rw [toLowercase, String.toList_ofList] at h
  exact fixed_of_mem_lowerChars h

theorem toLowercase_of_fixed {s : String} (h : ∀ c ∈ s.toList, T.Fixed c) :
    T.toLowercase s = s := by
  rw [toLowercase, lowerChars_of_fixed h, String.ofList_toList]

theorem fixed_of_ascii {c : Char} (h : c.toNat < 128) (hlower : c.toLower = c) : T.Fixed c := by
  refine ⟨(T.lower_ascii c h).trans (by rw [hlower]), ?_⟩
  rintro rfl
  exact absurd h (by decide)

/-- Lowering neither makes a bar nor takes one away. -/
theorem bar_mem_lowerChars {before cs : List Char} : '|' ∈ T.lowerChars before cs ↔ '|' ∈ cs := by
  induction cs generalizing before with
  | nil => rfl
  | cons c cs ih =>
    rw [lowerChars, List.mem_append, List.mem_cons, ih]
    refine or_congr_left ?_
    split
    · next hsigma =>
      rw [hsigma]
      split <;> decide
    · constructor
      · exact fun h => (T.lower_bar c h).symm
      · rintro rfl
        rw [T.lower_ascii '|' (by decide)]
        decide

theorem bar_mem_toLowercase {s : String} : '|' ∈ (T.toLowercase s).toList ↔ '|' ∈ s.toList := by
  rw [toLowercase, String.toList_ofList, bar_mem_lowerChars]

/-- What has been lowered holds no capital hexadecimal digit. -/
theorem Fixed.not_upper {c : Char} (h : T.Fixed c) : ¬('A' ≤ c ∧ c ≤ 'F') := by
  rintro ⟨hA, hF⟩
  have h₁ : 65 ≤ c.toNat := hA
  have h₂ : c.toNat ≤ 70 := hF
  have hlower := h.1
  rw [T.lower_ascii c (by omega)] at hlower
  have hc : c = Char.ofNat c.toNat := (Char.ofNat_toNat c).symm
  have hn : c.toNat = 65 ∨ c.toNat = 66 ∨ c.toNat = 67 ∨ c.toNat = 68 ∨ c.toNat = 69 ∨
      c.toNat = 70 := by omega
  rcases hn with hn | hn | hn | hn | hn | hn <;>
  · rw [hn] at hc
    subst hc
    exact absurd (List.cons.inj hlower).1 (by decide)

end CaseTables

/-- The bytes of a UUID. -/
abbrev UuidBytes := { bs : Bytes // bs.length = 16 }

/-- The invite as legacy JSON has it, missing fields at their defaults. -/
structure LegacyJson where
  v : UInt8
  jti : String
  uuid : String
  deviceId : String
  server : String
  ephKey : String
  ts : ℤ
  sig : String
  un : Option String
  ttl : Option ℕ
  deriving DecidableEq, Repr

/-- The encodings, the signatures and the JSON parser, with their laws. -/
structure InviteLibs where
  tables : CaseTables
  b64Encode : Bytes → String
  b64Decode : String → Option Bytes
  b64_decode_encode : ∀ bs, b64Decode (b64Encode bs) = some bs
  b64urlEncode : Bytes → String
  b64urlDecode : String → Option Bytes
  b64url_decode_encode : ∀ bs, b64urlDecode (b64urlEncode bs) = some bs
  mem_b64urlEncode : ∀ bs, ∀ c ∈ (b64urlEncode bs).toList, c.isAlphanum ∨ c = '-' ∨ c = '_'
  hexEncode : Bytes → String
  hexDecode : String → Option Bytes
  hexEncode_of_decode : ∀ s bs, hexDecode s = some bs →
    (∀ c ∈ s.toList, ¬('A' ≤ c ∧ c ≤ 'F')) → hexEncode bs = s
  uuidParse : String → Option UuidBytes
  uuidToString : UuidBytes → String
  uuidParse_toString : ∀ u, uuidParse (uuidToString u) = some u
  mem_uuidToString : ∀ u, ∀ c ∈ (uuidToString u).toList,
    '0' ≤ c ∧ c ≤ '9' ∨ 'a' ≤ c ∧ c ≤ 'f' ∨ c = '-'
  verifyingKey : Bytes → Bytes
  sign : Bytes → Bytes → { bs : Bytes // bs.length = 64 }
  verify : Bytes → Bytes → Bytes → Bool
  fromJson : Bytes → Except String LegacyJson

/-- Only the capital letters of ASCII are lowered there. -/
theorem toLower_cases (c : Char) : c.toLower = c ∨
    (c.toLower.toLower = c.toLower ∧ c.toLower ≠ 'Σ' ∧ c.toLower ≠ '|') := by
  have hcapital : ∀ n < 91, 65 ≤ n → (Char.ofNat n).toLower.toLower = (Char.ofNat n).toLower ∧
      (Char.ofNat n).toLower ≠ 'Σ' ∧ (Char.ofNat n).toLower ≠ '|' := by decide
  by_cases hc : 'A' ≤ c ∧ c ≤ 'Z'
  · have h₁ : 65 ≤ c.toNat := hc.1
    have h₂ : c.toNat ≤ 90 := hc.2
    have h := hcapital c.toNat (by omega) h₁
    rw [Char.ofNat_toNat] at h
    exact .inr h
  · exact .inl (dif_neg hc)

/-- The tables on ASCII, all other characters but the capital sigma left alone. -/
def CaseTables.ascii : CaseTables where
  lower c := if c = 'Σ' then ['σ'] else [c.toLower]
  isFinalSigma _ _ := false
  lower_lower c d h := by
    split at h
    · obtain rfl := List.mem_singleton.mp h
      decide
    · next hc =>
      obtain rfl := List.mem_singleton.mp h
      obtain hlower | ⟨hlower, hsigma, -⟩ := toLower_cases c
      · rw [hlower, if_neg hc, hlower]
        exact ⟨rfl, hc⟩
      · rw [if_neg hsigma, hlower]
        exact ⟨rfl, hsigma⟩
  lower_sigma := by decide
  lower_ascii c h := by
    rw [if_neg]
    rintro rfl
    exact absurd h (by decide)
  lower_bar c h := by
    split at h
    · cases List.mem_singleton.mp h
    · obtain hlower | ⟨-, -, hbar⟩ := toLower_cases c
      · rw [hlower] at h
        exact (List.mem_singleton.mp h).symm
      · exact absurd (List.mem_singleton.mp h).symm hbar

/-- The encodings, with given signatures and JSON. -/
def InviteLibs.plain (verifyingKey : Bytes) (signature : { bs : Bytes // bs.length = 64 })
    (fromJson : Bytes → Except String LegacyJson) : InviteLibs where
  tables := .ascii
  b64Encode bs := String.ofList (Base64.encode Base64.standard bs)
  b64Decode s := Base64.decode Base64.standard s.toList
  b64_decode_encode bs := by simp
  b64urlEncode bs := String.ofList (Base64.encode Base64.urlSafe bs)
  b64urlDecode s := Base64.decode Base64.urlSafe s.toList
  b64url_decode_encode bs := by simp
  mem_b64urlEncode bs c hc := by
    have hdigits : Base64.urlSafe.digits.all fun d => d.isAlphanum ∨ d = '-' ∨ d = '_' := by decide
    rw [String.toList_ofList] at hc
    simpa using List.all_eq_true.mp hdigits c (Base64.mem_encode rfl c hc)
  hexEncode bs := String.ofList (Hex.encode bs)
  hexDecode s := Hex.decode s.toList
  hexEncode_of_decode s bs h hs := by rw [Hex.encode_of_decode h hs, String.ofList_toList]
  uuidParse := Uuid.parse
  uuidToString u := Uuid.format u.val
  uuidParse_toString u := Uuid.parse_format u.property
  mem_uuidToString u c hc := Uuid.mem_format hc
  verifyingKey _ := verifyingKey
  sign _ _ := signature
  verify key _ sig := key = verifyingKey && sig = signature.val
  fromJson := fromJson

/-- A signature of zeros. -/
def zeroSignature : { bs : Bytes // bs.length = 64 } := ⟨List.replicate 64 0, rfl⟩

namespace Invite

/-- `Option::context`. -/
def context {α : Type} (msg : String) : Option α → Except String α
  | some a => .ok a
  | none => .error msg

/-- `anyhow::ensure!`. -/
def ensure (b : Bool) (msg : String) : Except String Unit := if b then .ok () else .error msg

@[simp] theorem context_eq_ok {α : Type} {msg : String} {o : Option α} {a : α} :
    context msg o = .ok a ↔ o = some a := by
  cases o <;> simp [context]

@[simp] theorem ensure_eq_ok {b : Bool} {msg : String} {u : Unit} :
    ensure b msg = .ok u ↔ b = true := by
  cases b <;> simp [ensure]

@[simp] theorem ensure_true (msg : String) : ensure true msg = .ok () := rfl

def magic : Bytes := [0x43, 0x49, 0x76, 0x31]

/-- The seconds since the epoch as a signed number; a clock before the epoch reads zero. -/
def nowUnix (clock : Option UInt64) : ℤ :=
  match clock with
  | some secs => secs.toInt64.toInt
  | none => 0

variable (L : InviteLibs)

/-! ### The signed string -/

/-- The text that is signed. -/
def canonicalString (i : Invite) : Except String String :=
  let jti := L.tables.toLowercase i.jti
  let uuid := L.tables.toLowercase i.uuid
  let un := i.un.getD ""
  match i.v.toNat with
  | 1 => .ok ("|".intercalate [toString i.v.toNat, jti, uuid, i.server, i.ephKey, toString i.ts])
  | 2 => .ok ("|".intercalate
    [toString i.v.toNat, jti, uuid, i.deviceId, i.server, i.ephKey, toString i.ts])
  | 3 => .ok ("|".intercalate
    [toString i.v.toNat, jti, uuid, i.deviceId, i.server, i.ephKey, toString i.ts, un])
  | 4 => .ok ("|".intercalate
    [toString i.v.toNat, jti, uuid, i.deviceId, i.server, toString i.ts, un])
  | 5 => do
    let ttl ← context "v5 invite without ttl" i.ttl
    return "|".intercalate
      [toString i.v.toNat, jti, uuid, i.deviceId, i.server, toString i.ts, un, toString ttl]
  | other => .error ("unsupported invite version " ++ toString other)

/-! ### Writing -/

def uuidBytes (s : String) : Except String Bytes :=
  (context "uuid" (L.uuidParse s)).map Subtype.val

/-- The user name as it is sent: trimmed, and none if nothing is left. -/
def trimmedUsername (un : Option String) : Option String :=
  (un.map fun s => String.ofList (trimChars s.toList)).filter fun s => s ≠ ""

/-- The ephemeral key, which only old versions carry. -/
def ephBytes (i : Invite) : Except String Bytes :=
  if i.v ≤ 3 then do
    let eph ← context "ephKey" (L.b64Decode i.ephKey)
    ensure (eph.length = 32) "ephKey must be 32 bytes"
    return eph
  else return []

/-- The lifetime, which new versions carry. -/
def ttlBytes (i : Invite) : Except String Bytes :=
  if 5 ≤ i.v then do
    let ttl ← context "v5 invite without ttl" i.ttl
    return be32 ttl
  else return []

/-- `u64::try_from`, for a number of 64 bits. -/
def u64OfInt (n : ℤ) : Except String ℕ :=
  if 0 ≤ n then .ok n.toNat else .error "out of range integral type conversion attempted"

def encodeBinary (i : Invite) : Except String Bytes := do
  let jti ← uuidBytes L i.jti
  let uuid ← uuidBytes L i.uuid
  let device ← context "device id hex" (L.hexDecode i.deviceId)
  ensure (device.length = 16) "device id must be 16 bytes"
  let sig ← context "sig base64" (L.b64Decode i.sig)
  ensure (sig.length = 64) "signature must be 64 bytes"
  let un := (trimmedUsername i.un).map Utf8.encode
  ensure (un.all fun b => b.length ≤ 255) "username too long"
  let server := Utf8.encode i.server
  ensure (!server.isEmpty && server.length ≤ 255) "invalid server"
  let eph ← ephBytes L i
  let ts ← u64OfInt i.ts
  let ttl ← ttlBytes i
  let flags : UInt8 := if un.isSome then 1 else 0
  let unBytes := (un.map fun b => UInt8.ofNat b.length :: b).getD []
  return magic ++ ([flags, i.v] ++ (jti ++ (uuid ++ (device ++ (eph ++ (be64 ts ++ (sig ++
    (UInt8.ofNat server.length :: server ++ (unBytes ++ ttl)))))))))

def toBase64url (i : Invite) : Except String String := (encodeBinary L i).map L.b64urlEncode

def httpsAdd : String := "https://konstruct.cc/add?invite="

def schemeAdd : String := "konstruct://add?invite="

def httpsLink (i : Invite) : Except String String := (toBase64url L i).map (httpsAdd ++ ·)

def schemeLink (i : Invite) : Except String String := (toBase64url L i).map (schemeAdd ++ ·)

/-! ### Minting -/

def normalizeServer (serverUrl : String) : String :=
  let s := trimEndChar '/' (trimStartMatches "http://".toList
    (trimStartMatches "https://".toList (trimChars serverUrl.toList)))
  String.ofList ((stripSuffix ":443".toList s).getD s)

def isAsciiHexdigit (c : Char) : Bool :=
  '0' ≤ c && c ≤ '9' || 'a' ≤ c && c ≤ 'f' || 'A' ≤ c && c ≤ 'F'

/-- Mint an invite. `jti` is a fresh random id. -/
def mint (userId deviceId serverUrl signingKeyHex : String) (username : Option String)
    (ttl : UInt32) (jti : UuidBytes) (clock : Option UInt64) : Except String Invite := do
  ensure (60 ≤ ttl.toNat) ("ttl " ++ toString ttl.toNat ++ "s below floor")
  let user ← context "user id" (L.uuidParse userId)
  let uuid := L.tables.toLowercase (L.uuidToString user)
  let device := L.tables.toLowercase deviceId
  ensure (device.utf8ByteSize = 32 && device.toList.all isAsciiHexdigit)
    "device id must be 32 hex chars"
  let unsigned : Invite :=
    { v := 5, jti := L.uuidToString jti, uuid := uuid, deviceId := device,
      server := normalizeServer serverUrl, ephKey := "", ts := nowUnix clock, sig := "",
      un := trimmedUsername username, ttl := some ttl.toNat }
  let canonical ← canonicalString L unsigned
  let signingKey ← context "signing key hex" (L.hexDecode signingKeyHex)
  ensure (signingKey.length = 32) "signing key must be 32 bytes"
  let sig := (L.sign signingKey (Utf8.encode canonical)).val
  ensure (L.verify (L.verifyingKey signingKey) (Utf8.encode canonical) sig) "invite self-verify"
  return { unsigned with sig := L.b64Encode sig }

/-! ### Reading -/

/-- A reader of bytes, on what it has not read yet. -/
abbrev Reader := StateT Bytes (Except String)

namespace Reader

def take (n : ℕ) : Reader Bytes := fun data =>
  if n ≤ data.length then .ok (data.take n, data.drop n) else .error "truncated CIv1"

def u8 : Reader UInt8 := do return (← take 1).headD 0

def atEnd : Reader Bool := do return (← get).isEmpty

/-- A text of known length. -/
def text (n : ℕ) (msg : String) : Reader String := do
  context msg (Utf8.decode? (← take n))

end Reader

namespace Reader

variable {α β : Type}

theorem bind_of_ok {x : Reader α} {f : α → Reader β} {data rest : Bytes} {a : α}
    (h : x data = .ok (a, rest)) : (x >>= f) data = f a rest := by
  show (x data >>= fun p => f p.1 p.2) = f a rest
  rw [h]
  rfl

theorem bind_eq_ok {x : Reader α} {f : α → Reader β} {data : Bytes} {r : β × Bytes} :
    (x >>= f) data = .ok r ↔ ∃ a rest, x data = .ok (a, rest) ∧ f a rest = .ok r := by
  show (x data >>= fun p => f p.1 p.2) = .ok r ↔ _
  rw [Checked.bind_eq_ok]
  exact Prod.exists

theorem lift_of_ok {x : Except String α} {a : α} (h : x = .ok a) (data : Bytes) :
    (liftM x : Reader α) data = .ok (a, data) := by
  rw [h]
  rfl

theorem lift_eq_ok {x : Except String α} {data rest : Bytes} {a : α} :
    (liftM x : Reader α) data = .ok (a, rest) ↔ x = .ok a ∧ rest = data := by
  cases x with
  | error e =>
    refine iff_of_false (fun h => ?_) (by simp)
    cases h
  | ok b =>
    show Except.ok (b, data) = .ok (a, rest) ↔ _
    simp [eq_comm]

theorem take_eq_ok {n : ℕ} {data bs rest : Bytes} :
    take n data = .ok (bs, rest) ↔ bs.length = n ∧ data = bs ++ rest := by
  unfold take
  constructor
  · intro h
    split at h
    · next hn =>
      obtain ⟨rfl, rfl⟩ : data.take n = bs ∧ data.drop n = rest := by simpa using h
      exact ⟨List.length_take_of_le hn, (List.take_append_drop n data).symm⟩
    · cases h
  · rintro ⟨rfl, rfl⟩
    rw [if_pos (by simp), List.take_left, List.drop_left]

theorem u8_eq_ok {data rest : Bytes} {b : UInt8} :
    u8 data = .ok (b, rest) ↔ data = b :: rest := by
  unfold u8
  rw [bind_eq_ok]
  constructor
  · rintro ⟨bs, rest', hbs, hb⟩
    obtain ⟨hlen, rfl⟩ := take_eq_ok.mp hbs
    obtain ⟨b', rfl⟩ := List.length_eq_one_iff.mp hlen
    obtain ⟨rfl, rfl⟩ : b' = b ∧ rest' = rest := Prod.mk.inj (Except.ok.inj hb)
    rfl
  · rintro rfl
    exact ⟨[b], rest, take_eq_ok.mpr ⟨rfl, rfl⟩, rfl⟩

/-- A text is read back behind its length. -/
theorem text_encode (s : String) (msg : String) (rest : Bytes) :
    text (Utf8.encode s).length msg (Utf8.encode s ++ rest) = .ok (s, rest) := by
  unfold text
  rw [bind_of_ok (take_eq_ok.mpr ⟨rfl, rfl⟩), Utf8.decode?_encode]
  rfl

end Reader

/-- A UUID of sixteen bytes. -/
def uuidString (bs : Bytes) : Except String String :=
  if h : bs.length = 16 then .ok (L.uuidToString ⟨bs, h⟩) else .error "uuid bytes"

theorem uuidString_val (u : UuidBytes) : uuidString L u.val = .ok (L.uuidToString u) :=
  dif_pos u.property

def readEphKey (v : UInt8) : Reader String := do
  if v ≤ 3 then return L.b64Encode (← Reader.take 32) else return ""

def readUsername (flags : UInt8) : Reader (Option String) := do
  if flags &&& 1 ≠ 0 then
    let n ← Reader.u8
    return some (← Reader.text n.toNat "un utf8")
  else return none

def readTtl (v : UInt8) : Reader (Option ℕ) := do
  if 5 ≤ v then return some (ofBe (← Reader.take 4)) else return none

/-- The fields of a binary invite, in order. -/
def readBinary : Reader Invite := do
  let start ← Reader.take 4
  ensure (start = magic) "bad CIv1 magic"
  let flags ← Reader.u8
  let v ← Reader.u8
  let jti ← uuidString L (← Reader.take 16)
  let uuid ← uuidString L (← Reader.take 16)
  let deviceId := L.hexEncode (← Reader.take 16)
  let ephKey ← readEphKey L v
  let ts := (BitVec.ofNat 64 (ofBe (← Reader.take 8))).toInt
  let sig := L.b64Encode (← Reader.take 64)
  let serverLen ← Reader.u8
  let server ← Reader.text serverLen.toNat "server utf8"
  let un ← readUsername flags
  let ttl ← readTtl v
  ensure (← Reader.atEnd) "trailing bytes"
  return ⟨v, jti, uuid, deviceId, server, ephKey, ts, sig, un, ttl⟩

/-- A binary invite: its fields, and the checks on its time and lifetime. -/
def decodeBinary (clock : Option UInt64) (data : Bytes) : Except String Invite := do
  let (i, _) ← readBinary L data
  ensure (0 < i.ts && i.ts ≤ nowUnix clock + 300) "invalid timestamp"
  if 5 ≤ i.v then
    let t ← context "v5 invite without ttl" i.ttl
    ensure (60 ≤ t) ("ttl " ++ toString t ++ "s below floor")
  return i

/-- An invite in legacy JSON; nothing is checked. -/
def decodeLegacyJson (bytes : Bytes) : Except String Invite := do
  let j ← L.fromJson bytes
  return ⟨j.v, j.jti, j.uuid, j.deviceId, j.server, j.ephKey, j.ts, j.sig, j.un, j.ttl⟩

/-- The value of the parameter `invite`, up to the next parameter. -/
def extractInviteParam (raw : List Char) : Option (List Char) :=
  (afterText "invite=".toList raw).map fun rest => rest.takeWhile fun c => c ≠ '&'

/-- The payload in either dialect of base64. -/
def decodePayload (s : List Char) : Option Bytes :=
  let cleaned := String.ofList (trimChars s)
  (L.b64urlDecode cleaned).or (L.b64Decode cleaned)

/-- The bytes a text carries, alone or in a link. -/
def payloadBytes (raw : String) : Option Bytes :=
  let trimmed := trimChars raw.toList
  decodePayload L ((extractInviteParam trimmed).getD trimmed)

def parseInvite (clock : Option UInt64) (raw : String) : Except String Invite :=
  match payloadBytes L raw with
  | none => .error "unrecognized invite payload"
  | some bytes =>
    if magic.isPrefixOf bytes then decodeBinary L clock bytes
    else match decodeLegacyJson L bytes with
      | .ok i => .ok i
      | .error _ => .error "unrecognized invite payload"

end Invite

import ConstructTui.Invite.Cursor

/-!
# Parsing a text that may be an invite

The text is cut at offsets in bytes, times are added as signed 64-bit numbers, and the name of an
invite without a user name is the start of its identifier. What panics on the way is made explicit
here. Cutting at what was found never panics; adding and cutting the identifier can.

## Main definitions

* `Invite.looksLikeInvite`: what the search box takes for an invite.
* `Invite.Sliced.parseInvite`, `Invite.Sliced.isExpired`, `Invite.Sliced.inviteUsername`: what can
  panic.
* `Invite.Harmless`: what a text must be for nothing to panic.

## Main results

* `Invite.Sliced.parseInvite_eq_ok`, `Invite.Sliced.isExpired_exact`,
  `Invite.Sliced.inviteUsername_eq_ok`: when it does not.
-/

namespace Invite

open Checked

variable (L : InviteLibs) (clock : Option UInt64)

/-- What the search box takes for an invite. -/
def looksLikeInvite (raw : String) : Bool :=
  let t := trimChars raw.toList
  (afterText "invite=".toList t).isSome || "konstruct://".toList.isPrefixOf t ||
    (afterText "konstruct.cc/add".toList t).isSome ||
    (40 < byteLength t &&
      ((L.b64urlDecode (String.ofList t)).map fun bytes => magic.isPrefixOf bytes).getD false)

namespace Sliced

/-- The value of the parameter `invite`, cut out of the text. -/
def extractInviteParam (raw : List Char) : Checked (Option (List Char)) :=
  match findText "invite=".toList raw with
  | none => .ok none
  | some q => do
    let (_, rest) ← splitText raw (q + byteLength "invite=".toList)
    let (param, _) ← splitText rest ((findText ['&'] rest).getD (byteLength rest))
    return some param

/-- The checks on the time and the lifetime. -/
def checkTimes (i : Invite) : Checked (Except String Invite) := do
  let timely ← if 0 < i.ts
    then (addI64 (nowUnix clock) 300).map fun latest => decide (i.ts ≤ latest)
    else .ok false
  return do
    ensure timely "invalid timestamp"
    if 5 ≤ i.v then
      let t ← context "v5 invite without ttl" i.ttl
      ensure (60 ≤ t) ("ttl " ++ toString t ++ "s below floor")
    return i

def decodeBinary (data : Bytes) : Checked (Except String Invite) := do
  match ← Cursor.readBinary L ⟨data, 0⟩ with
  | .error e => return .error e
  | .ok (i, _) => checkTimes clock i

/-- What `parse_invite` does with a payload. -/
def parsePayload (payload : List Char) : Checked (Except String Invite) :=
  match decodePayload L payload with
  | none => .ok (.error "unrecognized invite payload")
  | some bytes =>
    if magic.isPrefixOf bytes then decodeBinary L clock bytes
    else match decodeLegacyJson L bytes with
      | .ok i => .ok (.ok i)
      | .error _ => .ok (.error "unrecognized invite payload")

def parseInvite (raw : String) : Checked (Except String Invite) := do
  let trimmed := trimChars raw.toList
  parsePayload L clock ((← extractInviteParam trimmed).getD trimmed)

def isExpired (invite : Invite) (now : ℤ) : Checked Bool :=
  (addI64 invite.ts invite.effectiveTtl).map fun expiry => decide (expiry < now)

/-- The same where sums wrap. -/
def isExpiredWrapping (invite : Invite) (now : ℤ) : Bool :=
  wrapAddI64 invite.ts invite.effectiveTtl < now

/-- `uuid[..8.min(uuid.len())]`. -/
def shortUuid (uuid : String) : Checked String :=
  (splitText uuid.toList (min 8 (byteLength uuid.toList))).map fun p => String.ofList p.1

/-- The name an invite adds its owner under. -/
def inviteUsername (invite : Invite) : Checked String :=
  match invite.un.filter fun un => un ≠ "" with
  | some un => .ok un
  | none => shortUuid invite.uuid

end Sliced

/-! ### What does not panic -/

/-- The invite that legacy JSON says. -/
def ofJson (j : LegacyJson) : Invite :=
  ⟨j.v, j.jti, j.uuid, j.deviceId, j.server, j.ephKey, j.ts, j.sig, j.un, j.ttl⟩

/-- Two characters meet where the short name ends. -/
def Boundary (uuid : String) : Prop :=
  ∃ as bs, uuid.toList = as ++ bs ∧ byteLength as = min 8 (byteLength uuid.toList)

/-- Nothing panics on a text: the times of the payload can be added, and where JSON says no user
name, the short name ends between two characters. -/
def Harmless (clock' : Option UInt64) (raw : String) : Prop :=
  ∀ bytes, payloadBytes L raw = some bytes →
    if magic.isPrefixOf bytes then ∀ c : Civ1, c.bytes = bytes → 0 < c.ts →
      Fits (nowUnix clock + 300) ∧
        (c.Timely (nowUnix clock) → Fits (c.ts + (c.invite L).effectiveTtl))
    else ∀ j, L.fromJson bytes = .ok j → Fits (j.ts + (ofJson j).effectiveTtl) ∧
      (nowUnix clock' ≤ j.ts + (ofJson j).effectiveTtl → j.un.getD "" = "" → Boundary j.uuid)

namespace Sliced

variable {L clock}

/-- The parameter is cut at what was found. -/
theorem extractInviteParam_eq (raw : List Char) :
    extractInviteParam raw = .ok (Invite.extractInviteParam raw) := by
  unfold extractInviteParam Invite.extractInviteParam
  obtain ⟨hfind, hafter⟩ | ⟨before, rest, rfl, hfind, hafter⟩ :=
    findText_cases "invite=".toList raw
  · rw [hfind, hafter]
    rfl
  · have hsplit : splitText (before ++ ("invite=".toList ++ rest))
        (byteLength before + byteLength "invite=".toList) =
          .ok (before ++ "invite=".toList, rest) := by
      rw [← byteLength_append, ← List.append_assoc]
      exact splitText_append _ rest
    rw [hfind, hafter]
    dsimp only
    rw [hsplit]
    show (splitText rest _ >>= _) = _
    rw [splitText_findText]
    rfl

theorem checkTimes_eq_ok {i : Invite} {r : Except String Invite} :
    checkTimes clock i = .ok r ↔ (0 < i.ts → Fits (nowUnix clock + 300)) ∧ r = (do
      ensure (0 < i.ts && i.ts ≤ nowUnix clock + 300) "invalid timestamp"
      if 5 ≤ i.v then
        let t ← context "v5 invite without ttl" i.ttl
        ensure (60 ≤ t) ("ttl " ++ toString t ++ "s below floor")
      return i) := by
  unfold checkTimes
  by_cases hpos : 0 < i.ts
  · rw [if_pos hpos, decide_eq_true hpos, Bool.true_and]
    by_cases hfits : Fits (nowUnix clock + 300)
    · rw [addI64_of_fits hfits]
      exact ⟨fun h => ⟨fun _ => hfits, (Except.ok.inj h).symm⟩, fun h => h.2 ▸ rfl⟩
    · have hadd : addI64 (nowUnix clock) 300 = .error .overflow := if_neg hfits
      rw [hadd]
      exact iff_of_false (fun h => by cases h) fun h => hfits (h.1 hpos)
  · rw [if_neg hpos, decide_eq_false hpos, Bool.false_and]
    exact ⟨fun h => ⟨fun h' => absurd h' hpos, (Except.ok.inj h).symm⟩, fun h => h.2 ▸ rfl⟩

theorem decodeBinary_eq_ok {data : Bytes} {r : Except String Invite} :
    decodeBinary L clock data = .ok r ↔
      (∀ c : Civ1, c.bytes = data → 0 < c.ts → Fits (nowUnix clock + 300)) ∧
        r = Invite.decodeBinary L clock data := by
  unfold decodeBinary Invite.decodeBinary
  obtain ⟨herror, hok⟩ := follows_readBinary L data 0 (Nat.zero_le _)
  rw [List.drop_zero] at herror hok
  cases hread : readBinary L data with
  | error e =>
    have hnone (c : Civ1) : c.bytes ≠ data := by
      rintro rfl
      rw [readBinary_bytes] at hread
      cases hread
    rw [herror e hread]
    exact ⟨fun h => ⟨fun c hc => absurd hc (hnone c), (Except.ok.inj h).symm⟩, fun h => h.2 ▸ rfl⟩
  | ok p =>
    obtain ⟨i, rest⟩ := p
    obtain ⟨j, -, -, hcursor⟩ := hok i rest hread
    obtain ⟨-, c, rfl, rfl⟩ := readBinary_eq_ok.mp hread
    rw [hcursor]
    refine checkTimes_eq_ok.trans (and_congr_left fun _ => ?_)
    constructor
    · intro h c' hc'
      rw [Civ1.eq_of_starts (hc' ▸ List.prefix_rfl : c'.bytes <+: c.bytes)]
      exact h
    · exact fun h => h c rfl

/-- Parsing does not panic when the clock can be moved on by the skew. -/
theorem parseInvite_eq_ok {raw : String} {r : Except String Invite} :
    parseInvite L clock raw = .ok r ↔
      (∀ bytes, payloadBytes L raw = some bytes → magic.isPrefixOf bytes →
        ∀ c : Civ1, c.bytes = bytes → 0 < c.ts → Fits (nowUnix clock + 300)) ∧
      r = Invite.parseInvite L clock raw := by
  unfold parseInvite Invite.parseInvite payloadBytes
  dsimp only
  rw [extractInviteParam_eq]
  show parsePayload L clock _ = .ok r ↔ _
  unfold parsePayload
  cases hbytes : decodePayload L ((Invite.extractInviteParam (trimChars raw.toList)).getD
    (trimChars raw.toList)) with
  | none =>
    dsimp only
    have hnone (b : Bytes) (hb : none = some b) : False := by cases hb
    exact ⟨fun h => ⟨fun b hb => (hnone b hb).elim, (Except.ok.inj h).symm⟩, fun h => h.2 ▸ rfl⟩
  | some bytes =>
    dsimp only
    by_cases hmagic : magic.isPrefixOf bytes
    · rw [if_pos hmagic, if_pos hmagic]
      refine decodeBinary_eq_ok.trans (and_congr_left fun _ => ?_)
      constructor
      · rintro h bytes' hb -
        obtain rfl := Option.some.inj hb
        exact h
      · exact fun h => h bytes rfl hmagic
    · have hnone (b : Bytes) (hb : some bytes = some b) (hm : magic.isPrefixOf b) : False :=
        hmagic (Option.some.inj hb ▸ hm)
      rw [if_neg hmagic, if_neg hmagic]
      cases hjson : decodeLegacyJson L bytes with
      | ok i =>
        exact ⟨fun h => ⟨fun b hb hm => (hnone b hb hm).elim, (Except.ok.inj h).symm⟩,
          fun h => h.2 ▸ rfl⟩
      | error e =>
        exact ⟨fun h => ⟨fun b hb hm => (hnone b hb hm).elim, (Except.ok.inj h).symm⟩,
          fun h => h.2 ▸ rfl⟩

theorem isExpired_eq_ok {i : Invite} {now : ℤ} {b : Bool} :
    isExpired i now = .ok b ↔ Fits (i.ts + i.effectiveTtl) ∧ b = i.isExpired now := by
  unfold isExpired Invite.isExpired
  by_cases hfits : Fits (i.ts + i.effectiveTtl)
  · rw [addI64_of_fits hfits]
    exact ⟨fun h => ⟨hfits, (Except.ok.inj h).symm⟩, fun h => h.2 ▸ rfl⟩
  · have hadd : addI64 i.ts i.effectiveTtl = .error .overflow := if_neg hfits
    rw [hadd]
    exact iff_of_false (fun h => by cases h) fun h => hfits h.1

/-- Whether an invite has expired is told for every clock exactly when its end can be told: the sum
panics otherwise, and where it wraps, some clock is told wrong. -/
theorem isExpired_exact {i : Invite} (hts : Fits i.ts) :
    ((∀ now, Fits now → isExpired i now =
      .ok (decide (i.ts + min (i.ttl.getD 43200) 43200 < now))) ↔ Fits (i.ts + i.effectiveTtl)) ∧
    ((∀ now, Fits now → (isExpiredWrapping i now ↔ i.ts + min (i.ttl.getD 43200) 43200 < now)) ↔
      Fits (i.ts + i.effectiveTtl)) := by
  have httl : i.effectiveTtl = min (i.ttl.getD 43200) 43200 := by
    unfold effectiveTtl
    cases i.ttl <;> rfl
  have hfits : Fits i.effectiveTtl := by
    unfold Fits
    omega
  rw [← httl]
  constructor
  · constructor
    · exact fun h => (isExpired_eq_ok.mp (h 0 (by decide))).1
    · exact fun h now _ => isExpired_eq_ok.mpr ⟨h, rfl⟩
  · rw [← wrapAddI64_lt_iff hts hfits]
    unfold isExpiredWrapping
    simp only [decide_eq_true_eq]

theorem shortUuid_eq_ok {uuid name : String} : shortUuid uuid = .ok name ↔
    ∃ bs, uuid.toList = name.toList ++ bs ∧
      byteLength name.toList = min 8 (byteLength uuid.toList) := by
  unfold shortUuid
  constructor
  · intro h
    cases hsplit : splitText uuid.toList (min 8 (byteLength uuid.toList)) with
    | error e => rw [hsplit] at h; cases h
    | ok p =>
      rw [hsplit] at h
      obtain rfl := Except.ok.inj h
      rw [String.toList_ofList]
      exact ⟨p.2, splitText_eq_ok.mp hsplit⟩
  · rintro ⟨bs, huuid, hlength⟩
    rw [splitText_eq_ok.mpr ⟨huuid, hlength⟩]
    exact congrArg Except.ok String.ofList_toList

theorem exists_shortUuid {uuid : String} : (∃ name, shortUuid uuid = .ok name) ↔ Boundary uuid := by
  constructor
  · rintro ⟨name, hname⟩
    obtain ⟨bs, huuid, hlength⟩ := shortUuid_eq_ok.mp hname
    exact ⟨name.toList, bs, huuid, hlength⟩
  · rintro ⟨as, bs, huuid, hlength⟩
    exact ⟨String.ofList as, shortUuid_eq_ok.mpr ⟨bs, by simpa using huuid, by simpa using hlength⟩⟩

theorem exists_inviteUsername {i : Invite} : (∃ name, inviteUsername i = .ok name) ↔
    (i.un.getD "" = "" → Boundary i.uuid) := by
  unfold inviteUsername
  cases hun : i.un with
  | none => simpa using exists_shortUuid
  | some un =>
    by_cases hempty : un = ""
    · simpa [hempty, Option.filter] using exists_shortUuid
    · simp [hempty, Option.filter]

/-- Identifiers that are read from bytes can be cut anywhere. -/
theorem boundary_uuidToString (u : UuidBytes) : Boundary (L.uuidToString u) := by
  have hone : ∀ c ∈ (L.uuidToString u).toList, c.utf8Size = 1 := by
    intro c hc
    refine Char.utf8Size_eq_one_iff.mpr ?_
    have hle (a b : Char) (hab : a ≤ b) : a.toNat ≤ b.toNat := hab
    show c.toNat ≤ 127
    rcases L.mem_uuidToString u c hc with ⟨-, h⟩ | ⟨-, h⟩ | rfl
    · exact (hle _ _ h).trans (by decide)
    · exact (hle _ _ h).trans (by decide)
    · decide
  have hlength {cs : List Char} (h : ∀ c ∈ cs, c.utf8Size = 1) : byteLength cs = cs.length := by
    rw [byteLength, List.map_congr_left h, List.map_const', List.sum_replicate_nat, Nat.mul_one]
  refine ⟨_, _, (List.take_append_drop 8 _).symm, ?_⟩
  rw [hlength hone, hlength fun c hc => hone c (List.mem_of_mem_take hc), List.length_take]

end Sliced

end Invite

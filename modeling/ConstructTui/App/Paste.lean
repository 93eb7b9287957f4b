import ConstructTui.App.Handlers
import ConstructTui.Invite.RoundTrip
import ConstructTui.Invite.Sliced
import ConstructTui.Invite.Strict

/-!
# Text submitted in the search box

A submitted text is redeemed when it looks like an invite, and searched for as a user name
otherwise. What looks like an invite and what parses as one are told by different rules, and what
parses need not be harmless.

## Main definitions

* `Invite.Submitted`: what comes of a submitted text.
* `Invite.Sliced.redeemPastedInvite`, `Invite.Sliced.submitContactSearch`: the search box, with what
  panics.
* `Invite.Recognised`: the texts that are taken for the invites they carry.

## Main results

* `Invite.submitContactSearch_completes`: when the search box does not panic.
* `Invite.looksLikeInvite_iff`: what parses looks like an invite exactly when it is recognised.
* `App.submitContactSearch_eq`: what the app does with what does not panic.
-/

namespace Invite

open Checked

/-- What comes of a submitted text. -/
inductive Submitted
  | failed (msg : String)
  | redeeming (invite : Invite) (username : String)
  | searching (query : String)
  deriving DecidableEq, Repr

namespace Sliced

variable (L : InviteLibs) (clock clock' : Option UInt64)

/-- What is done with a parsed invite, unless it has expired. -/
def redeemParsed (invite : Invite) : Checked Submitted := do
  if ← isExpired invite (nowUnix clock') then return .failed "Invite expired"
  else return .redeeming invite (← inviteUsername invite)

/-- Parse an invite at one time, and see at another whether it has expired. -/
def redeemPastedInvite (raw : String) : Checked Submitted := do
  match ← parseInvite L clock raw with
  | .error e => return .failed ("Bad invite: " ++ e)
  | .ok invite => redeemParsed clock' invite

/-- What is done with a user name. -/
def searchUsername (query : List Char) : Submitted :=
  let query := normalizeUsername query
  if !usernameIsSearchable query then .failed "Username: 3–30 chars, letters/digits/_  (no @)"
  else .searching query

def submitContactSearch (query : List Char) : Checked Submitted :=
  let raw := String.ofList (trimChars query)
  if looksLikeInvite L raw then redeemPastedInvite L clock clock' raw
  else .ok (searchUsername query)

end Sliced

/-! ### Panics -/

variable {L : InviteLibs} {clock clock' : Option UInt64}

/-- What is parsed stands in the payload. -/
theorem parseInvite_eq_ok {raw : String} {i : Invite} : parseInvite L clock raw = .ok i ↔
    ∃ bytes, payloadBytes L raw = some bytes ∧
      if magic.isPrefixOf bytes then
        ∃ c : Civ1, c.bytes = bytes ∧ c.Timely (nowUnix clock) ∧ c.invite L = i
      else ∃ j, L.fromJson bytes = .ok j ∧ ofJson j = i := by
  unfold parseInvite
  cases hbytes : payloadBytes L raw with
  | none =>
    refine iff_of_false (fun h => by cases h) fun h => ?_
    obtain ⟨bytes, h, -⟩ := h
    cases h
  | some bytes =>
    have hsome (p : Bytes → Prop) : (∃ b, some bytes = some b ∧ p b) ↔ p bytes :=
      ⟨fun ⟨b, hb, h⟩ => Option.some.inj hb ▸ h, fun h => ⟨bytes, rfl, h⟩⟩
    rw [hsome]
    dsimp only
    by_cases hmagic : magic.isPrefixOf bytes
    · rw [if_pos hmagic, if_pos hmagic]
      exact decodeBinary_eq_ok
    · rw [if_neg hmagic, if_neg hmagic]
      unfold decodeLegacyJson
      cases L.fromJson bytes with
      | error e =>
        refine iff_of_false (fun h => by cases h) fun h => ?_
        obtain ⟨j, h, -⟩ := h
        cases h
      | ok j =>
        constructor
        · exact fun h => ⟨j, rfl, Except.ok.inj h⟩
        · rintro ⟨j', hj, rfl⟩
          obtain rfl := Except.ok.inj hj
          rfl

theorem redeemParsed_eq_ok {i : Invite} {r : Submitted} :
    Sliced.redeemParsed clock' i = .ok r ↔ Fits (i.ts + i.effectiveTtl) ∧
      if i.isExpired (nowUnix clock') then r = .failed "Invite expired"
      else ∃ name, Sliced.inviteUsername i = .ok name ∧ r = .redeeming i name := by
  unfold Sliced.redeemParsed
  rw [Checked.bind_eq_ok]
  constructor
  · rintro ⟨b, hb, h⟩
    obtain ⟨hfits, rfl⟩ := Sliced.isExpired_eq_ok.mp hb
    refine ⟨hfits, ?_⟩
    by_cases hexpired : i.isExpired (nowUnix clock')
    · rw [if_pos hexpired] at h ⊢
      exact (Except.ok.inj h).symm
    · rw [if_neg hexpired, Checked.bind_eq_ok] at h
      rw [if_neg hexpired]
      obtain ⟨name, hname, h⟩ := h
      exact ⟨name, hname, (Except.ok.inj h).symm⟩
  · rintro ⟨hfits, h⟩
    refine ⟨_, Sliced.isExpired_eq_ok.mpr ⟨hfits, rfl⟩, ?_⟩
    by_cases hexpired : i.isExpired (nowUnix clock')
    · rw [if_pos hexpired] at h ⊢
      exact h ▸ rfl
    · rw [if_neg hexpired] at h
      obtain ⟨name, hname, rfl⟩ := h
      rw [if_neg hexpired, Checked.bind_eq_ok]
      exact ⟨name, hname, rfl⟩

theorem exists_redeemParsed {i : Invite} : (∃ r, Sliced.redeemParsed clock' i = .ok r) ↔
    Fits (i.ts + i.effectiveTtl) ∧
      (i.isExpired (nowUnix clock') = false → i.un.getD "" = "" → Boundary i.uuid) := by
  simp only [redeemParsed_eq_ok, exists_and_left]
  refine and_congr_right fun _ => ?_
  by_cases hexpired : i.isExpired (nowUnix clock')
  · simp [hexpired]
  · simp only [Bool.not_eq_true] at hexpired
    simp only [hexpired, Bool.false_eq_true, if_false, true_imp_iff,
      ← Sliced.exists_inviteUsername]
    constructor
    · rintro ⟨_, name, hname, -⟩
      exact ⟨name, hname⟩
    · rintro ⟨name, hname⟩
      exact ⟨_, name, hname, rfl⟩

/-- Redeeming panics unless the invite in the text can be parsed, told from an expired one, and
named. -/
theorem exists_redeemPastedInvite {raw : String} :
    (∃ r, Sliced.redeemPastedInvite L clock clock' raw = .ok r) ↔
      (∀ bytes, payloadBytes L raw = some bytes → magic.isPrefixOf bytes →
        ∀ c : Civ1, c.bytes = bytes → 0 < c.ts → Fits (nowUnix clock + 300)) ∧
      ∀ i, parseInvite L clock raw = .ok i → Fits (i.ts + i.effectiveTtl) ∧
        (i.isExpired (nowUnix clock') = false → i.un.getD "" = "" → Boundary i.uuid) := by
  unfold Sliced.redeemPastedInvite
  simp only [Checked.bind_eq_ok, Sliced.parseInvite_eq_ok]
  constructor
  · rintro ⟨r, _, ⟨hskew, rfl⟩, h⟩
    refine ⟨hskew, fun i hi => exists_redeemParsed.mp ⟨r, ?_⟩⟩
    rw [hi] at h
    exact h
  · rintro ⟨hskew, hredeem⟩
    cases hparse : parseInvite L clock raw with
    | error e => exact ⟨_, _, ⟨hskew, rfl⟩, rfl⟩
    | ok i =>
      obtain ⟨r, hr⟩ := exists_redeemParsed.mpr (hredeem i hparse)
      exact ⟨r, _, ⟨hskew, rfl⟩, hr⟩

theorem exists_redeemPastedInvite_iff_harmless {raw : String} :
    (∃ r, Sliced.redeemPastedInvite L clock clock' raw = .ok r) ↔
      Harmless L clock clock' raw := by
  rw [exists_redeemPastedInvite]
  simp only [parseInvite_eq_ok]
  unfold Harmless
  have hexpired (i : Invite) : i.isExpired (nowUnix clock') = false ↔
      nowUnix clock' ≤ i.ts + i.effectiveTtl := by
    rw [isExpired, decide_eq_false_iff_not, not_lt]
  constructor
  · rintro ⟨hskew, hredeem⟩ bytes hbytes
    by_cases hmagic : magic.isPrefixOf bytes
    · rw [if_pos hmagic]
      intro c hc hpos
      refine ⟨hskew bytes hbytes hmagic c hc hpos, fun htimely => (hredeem (c.invite L) ?_).1⟩
      refine ⟨bytes, hbytes, ?_⟩
      rw [if_pos hmagic]
      exact ⟨c, hc, htimely, rfl⟩
    · rw [if_neg hmagic]
      intro j hj
      obtain ⟨hfits, hname⟩ := hredeem (ofJson j) (by
        refine ⟨bytes, hbytes, ?_⟩
        rw [if_neg hmagic]
        exact ⟨j, hj, rfl⟩)
      exact ⟨hfits, fun hlive => hname ((hexpired (ofJson j)).mpr hlive)⟩
  · intro h
    refine ⟨fun bytes hbytes hmagic c hc hpos => ?_, ?_⟩
    · have hb := h bytes hbytes
      rw [if_pos hmagic] at hb
      exact (hb c hc hpos).1
    · rintro i ⟨bytes, hbytes, hi⟩
      have hb := h bytes hbytes
      by_cases hmagic : magic.isPrefixOf bytes
      · rw [if_pos hmagic] at hb hi
        obtain ⟨c, hc, htimely, rfl⟩ := hi
        exact ⟨(hb c hc htimely.pos).2 htimely, fun _ _ => Sliced.boundary_uuidToString c.uuid⟩
      · rw [if_neg hmagic] at hb hi
        obtain ⟨j, hj, rfl⟩ := hi
        obtain ⟨hfits, hname⟩ := hb j hj
        exact ⟨hfits, fun hlive => hname ((hexpired (ofJson j)).mp hlive)⟩

theorem exists_submitContactSearch {query : List Char} :
    (∃ r, Sliced.submitContactSearch L clock clock' query = .ok r) ↔
      (looksLikeInvite L (String.ofList (trimChars query)) →
        Harmless L clock clock' (String.ofList (trimChars query))) := by
  unfold Sliced.submitContactSearch
  dsimp only
  by_cases hlooks : looksLikeInvite L (String.ofList (trimChars query))
  · rw [if_pos hlooks, exists_redeemPastedInvite_iff_harmless]
    exact ⟨fun h _ => h, fun h => h hlooks⟩
  · rw [if_neg hlooks]
    exact ⟨fun _ h => absurd h hlooks, fun _ => ⟨_, rfl⟩⟩

theorem trimChars_trimChars (cs : List Char) : trimChars (trimChars cs) = trimChars cs :=
  trimChars_of_bare (bare_trimChars cs)

theorem looksLikeInvite_eq_true {raw : String} : looksLikeInvite L raw = true ↔
    (afterText "invite=".toList (trimChars raw.toList)).isSome ∨
      "konstruct://".toList <+: trimChars raw.toList ∨
      (afterText "konstruct.cc/add".toList (trimChars raw.toList)).isSome ∨
      40 < byteLength (trimChars raw.toList) ∧
        ∃ bytes, L.b64urlDecode (String.ofList (trimChars raw.toList)) = some bytes ∧
          magic.isPrefixOf bytes := by
  unfold looksLikeInvite
  have hget (o : Option Bytes) : (o.map fun bytes => magic.isPrefixOf bytes).getD false = true ↔
      ∃ bytes, o = some bytes ∧ magic.isPrefixOf bytes := by
    cases o <;> simp
  simp only [Bool.or_eq_true, Bool.and_eq_true, decide_eq_true_eq, hget,
    List.isPrefixOf_iff_prefix, or_assoc]

theorem looksLikeInvite_trim (raw : String) :
    looksLikeInvite L (String.ofList (trimChars raw.toList)) = looksLikeInvite L raw := by
  unfold looksLikeInvite
  rw [String.toList_ofList, trimChars_trimChars]

theorem payloadBytes_trim (raw : String) :
    payloadBytes L (String.ofList (trimChars raw.toList)) = payloadBytes L raw := by
  unfold payloadBytes
  rw [String.toList_ofList, trimChars_trimChars]

theorem harmless_trim {raw : String} :
    Harmless L clock clock' (String.ofList (trimChars raw.toList)) ↔
      Harmless L clock clock' raw := by
  unfold Harmless
  rw [payloadBytes_trim]

/-! ### Texts of legacy JSON -/

/-- Legacy JSON of user `uuid`, dated `ts`. -/
def jsonText (uuid : String) (ts : ℤ) : String :=
  "\x7b\"v\":3,\"jti\":\"a\",\"uuid\":\"" ++ uuid ++
    "\",\"deviceId\":\"c\",\"server\":\"d\",\"ts\":" ++ toString ts ++ ",\"sig\":\"e\"\x7d"

/-- Surroundings that read it. -/
def jsonLibs (uuid : String) (ts : ℤ) : InviteLibs := .plain [] zeroSignature fun _ =>
  .ok ⟨3, "a", uuid, "c", "d", "", ts, "e", none, none⟩

def jsonPayload (uuid : String) (ts : ℤ) : String :=
  (jsonLibs uuid ts).b64urlEncode (Utf8.encode (jsonText uuid ts))

def jsonLink (uuid : String) (ts : ℤ) : String := schemeAdd ++ jsonPayload uuid ts

section Json

variable (uuid : String) (ts : ℤ)

theorem not_magic_json : magic.isPrefixOf (Utf8.encode (jsonText uuid ts)) = false := by
  have hhead : ∃ rest, Utf8.encode (jsonText uuid ts) = 0x7B :: rest := by
    unfold Utf8.encode jsonText
    simp only [String.toList_append, Utf8.encodeChars_append, List.append_assoc]
    exact ⟨_, rfl⟩
  obtain ⟨rest, hrest⟩ := hhead
  rw [hrest]
  rfl

theorem payloadBytes_jsonPayload :
    payloadBytes (jsonLibs uuid ts) (jsonPayload uuid ts) =
      some (Utf8.encode (jsonText uuid ts)) := by
  refine payloadBytes_of_carries ?_
  have h := @Carries.alone (jsonPayload uuid ts).toList [] [] (by simp) (by simp)
  rw [List.append_nil, List.nil_append] at h
  exact h

theorem payloadBytes_jsonLink :
    payloadBytes (jsonLibs uuid ts) (jsonLink uuid ts) = some (Utf8.encode (jsonText uuid ts)) := by
  refine payloadBytes_of_carries ?_
  have h :=
    @Carries.link (jsonPayload uuid ts).toList [] schemeAdd.toList [] [] (by simp) (.inr rfl)
    (.inl rfl) (by simp)
  rw [List.append_nil, List.append_nil, List.nil_append] at h
  unfold jsonLink
  rw [String.toList_append]
  exact h

theorem parseInvite_json {raw : String}
    (hraw : payloadBytes (jsonLibs uuid ts) raw = some (Utf8.encode (jsonText uuid ts)))
    (clock : Option UInt64) : parseInvite (jsonLibs uuid ts) clock raw =
      .ok ⟨3, "a", uuid, "c", "d", "", ts, "e", none, none⟩ := by
  refine parseInvite_eq_ok.mpr ⟨_, hraw, ?_⟩
  rw [not_magic_json, if_neg Bool.false_ne_true]
  exact ⟨_, rfl, rfl⟩

/-- The parameter is found in the link. -/
theorem afterText_jsonLink :
    (afterText "invite=".toList (trimChars (jsonLink uuid ts).toList)).isSome := by
  have hbare : Bare schemeAdd.toList := by
    have hhead : schemeAdd.toList.head? = some 'k' := by decide
    have hlast : schemeAdd.toList.getLast? = some '=' := by decide
    rw [Bare, hhead, hlast]
    constructor
    · rintro c ⟨⟩
      decide
    · rintro c ⟨⟩
      decide
  obtain ⟨rest, -, htrim⟩ := @trimChars_around [] _ (jsonPayload uuid ts).toList (by simp) hbare
    (by decide)
  have hlink : trimChars (jsonLink uuid ts).toList =
      "konstruct://add?".toList ++ ("invite=".toList ++ rest) := by
    unfold jsonLink
    rw [String.toList_append]
    exact htrim
  have hafter :
      afterText "invite=".toList ("konstruct://add?".toList ++ ("invite=".toList ++ rest)) =
      some rest := afterText_append (by decide) rest
  rw [hlink, hafter]
  rfl

theorem looksLikeInvite_jsonLink : looksLikeInvite (jsonLibs uuid ts) (jsonLink uuid ts) :=
  looksLikeInvite_eq_true.mpr (.inl (afterText_jsonLink uuid ts))

/-- The link is harmless when its end fits and its user has a short name. -/
theorem harmless_jsonLink_iff {clock clock' : Option UInt64} :
    Harmless (jsonLibs uuid ts) clock clock' (jsonLink uuid ts) ↔
      Fits (ts + 43200) ∧ (nowUnix clock' ≤ ts + 43200 → Boundary uuid) := by
  unfold Harmless
  rw [payloadBytes_jsonLink]
  constructor
  · intro h
    have hjson := h _ rfl
    rw [not_magic_json, if_neg Bool.false_ne_true] at hjson
    obtain ⟨hfits, hname⟩ := hjson _ rfl
    exact ⟨hfits, fun hlive => hname hlive rfl⟩
  · rintro ⟨hfits, hname⟩ bytes hbytes
    obtain rfl := Option.some.inj hbytes
    rw [not_magic_json, if_neg Bool.false_ne_true]
    intro j hj
    obtain rfl := Except.ok.inj hj
    exact ⟨hfits, fun hlive _ => hname hlive⟩

end Json

/-- Neither the search box nor redeeming panics exactly when the text is harmless, and whether a
parsed invite has expired is told for every clock exactly when its end can be told. -/
theorem submitContactSearch_completes :
    (∀ query, (∃ r, Sliced.submitContactSearch L clock clock' query = .ok r) ↔
      (looksLikeInvite L (String.ofList (trimChars query)) →
        Harmless L clock clock' (String.ofList (trimChars query)))) ∧
    (∀ raw, (∃ r, Sliced.redeemPastedInvite L clock clock' raw = .ok r) ↔
      Harmless L clock clock' raw) ∧
    ∀ raw i, parseInvite L clock raw = .ok i → Fits i.ts →
      ((∀ now, Fits now → Sliced.isExpired i now =
        .ok (decide (i.ts + min (i.ttl.getD 43200) 43200 < now))) ↔ Fits (i.ts + i.effectiveTtl)) ∧
      ((∀ now, Fits now →
        (Sliced.isExpiredWrapping i now ↔ i.ts + min (i.ttl.getD 43200) 43200 < now)) ↔
          Fits (i.ts + i.effectiveTtl)) := by
  exact ⟨fun query => exists_submitContactSearch, fun raw => exists_redeemPastedInvite_iff_harmless,
    fun _ i _ hts => Sliced.isExpired_exact hts⟩

/-- A link to JSON of a user `b` does not panic. -/
theorem submitContactSearch_link : ∃ r, Sliced.submitContactSearch (jsonLibs "b" 1700000000)
    (some 1700000060) (some 1700000060) (jsonLink "b" 1700000000).toList = .ok r := by
  refine (submitContactSearch_completes.1 _).mpr fun _ => harmless_trim.mpr ?_
  exact (harmless_jsonLink_iff "b" 1700000000).mpr
    ⟨by decide, fun _ => ⟨"b".toList, [], rfl, by decide⟩⟩

/-- The short name of a user `1234567é` ends inside a character, and an invite of the last time
there is has no end. -/
theorem submitContactSearch_panics :
    (¬∃ r, Sliced.submitContactSearch (jsonLibs "1234567é" 1700000000) (some 1700000060)
      (some 1700000060) (jsonLink "1234567é" 1700000000).toList = .ok r) ∧
    ¬∃ r, Sliced.submitContactSearch (jsonLibs "b" 9223372036854775807) (some 1700000060)
      (some 1700000060) (jsonLink "b" 9223372036854775807).toList = .ok r := by
  constructor
  · intro h
    have hharmless := harmless_trim.mp (exists_submitContactSearch.mp h
      ((looksLikeInvite_trim _).trans (looksLikeInvite_jsonLink _ _)))
    have hname := ((harmless_jsonLink_iff _ _).mp hharmless).2 (by decide)
    obtain ⟨name, hname⟩ := Sliced.exists_shortUuid.mpr hname
    have hcut : Sliced.shortUuid "1234567é" = .error .slice := by decide +kernel
    cases hname.symm.trans hcut
  · intro h
    have hharmless := harmless_trim.mp (exists_submitContactSearch.mp h
      ((looksLikeInvite_trim _).trans (looksLikeInvite_jsonLink _ _)))
    exact absurd ((harmless_jsonLink_iff _ _).mp hharmless).1 (by decide)

/-! ### Recognising what parses -/

/-- The texts that are taken for the invites they carry: those with the parameter `invite`, and
base64 for URLs, without padding, of a binary invite. -/
def Recognised (L : InviteLibs) (raw : String) : Prop :=
  (afterText "invite=".toList (trimChars raw.toList)).isSome ∨
    ∃ bytes, L.b64urlDecode (String.ofList (trimChars raw.toList)) = some bytes ∧
      magic.isPrefixOf bytes

theorem mem_of_afterText {pat cs : List Char} (h : (afterText pat cs).isSome) :
    ∀ c ∈ pat, c ∈ cs := by
  obtain ⟨-, hafter⟩ | ⟨before, rest, rfl, -, -⟩ := Checked.findText_cases pat cs
  · rw [hafter] at h
    cases h
  · exact fun c hc => List.mem_append_right _ (List.mem_append_left _ hc)

/-- A text without the parameter is itself the payload, in one of the dialects. -/
theorem payloadBytes_bare {raw : String} {bytes : Bytes}
    (hbare : afterText "invite=".toList (trimChars raw.toList) = none) :
    payloadBytes L raw = some bytes ↔
      (L.b64urlDecode (String.ofList (trimChars raw.toList))).or
        (L.b64Decode (String.ofList (trimChars raw.toList))) = some bytes := by
  unfold payloadBytes extractInviteParam decodePayload
  dsimp only
  rw [hbare, Option.map_none, Option.getD_none, trimChars_trimChars]

/-- The characters of a payload. -/
theorem mem_payload (hL : L.Strict) {s : String} {bytes : Bytes}
    (h : (L.b64urlDecode s).or (L.b64Decode s) = some bytes) :
    ':' ∉ s.toList ∧ '.' ∉ s.toList := by
  rcases Option.or_eq_some_iff.mp h with h | ⟨-, h⟩
  · rw [← hL.b64urlEncode_of_decode _ _ h]
    exact ⟨fun hc => absurd (L.mem_b64urlEncode bytes _ hc) (by decide),
      fun hc => absurd (L.mem_b64urlEncode bytes _ hc) (by decide)⟩
  · rw [← hL.b64Encode_of_decode _ _ h]
    exact ⟨fun hc => absurd (hL.mem_b64Encode bytes _ hc) (by decide),
      fun hc => absurd (hL.mem_b64Encode bytes _ hc) (by decide)⟩

theorem length_civ1 (c : Civ1) : 127 ≤ c.bytes.length := by
  have hmagic : magic.length = 4 := rfl
  have hserver : 1 ≤ c.server.bytes.length := Nat.succ_le_succ (Nat.zero_le _)
  unfold Civ1.bytes
  simp only [List.length_append, List.length_cons, List.length_nil, hmagic, c.jti.property,
    c.uuid.property, c.device_length, c.time_length, c.sig_length]
  omega

theorem length_le_byteLength (cs : List Char) : cs.length ≤ byteLength cs := by
  induction cs with
  | nil => exact le_rfl
  | cons c cs ih =>
    have hpos := c.utf8Size_pos
    rw [byteLength_cons, List.length_cons]
    omega

/-- What parses looks like an invite. -/
theorem looksLikeInvite_of_recognised (hL : L.Strict) {raw : String} {i : Invite}
    (h : parseInvite L clock raw = .ok i) (hr : Recognised L raw) : looksLikeInvite L raw := by
  refine looksLikeInvite_eq_true.mpr ?_
  by_cases hparam : (afterText "invite=".toList (trimChars raw.toList)).isSome
  · exact .inl hparam
  · obtain ⟨bytes, hbytes, hmagic⟩ := hr.resolve_left hparam
    refine .inr (.inr (.inr ⟨?_, bytes, hbytes, hmagic⟩))
    have hnone := Option.not_isSome_iff_eq_none.mp hparam
    obtain ⟨bytes', hpayload, hi⟩ := parseInvite_eq_ok.mp h
    rw [payloadBytes_bare hnone, hbytes] at hpayload
    obtain rfl := Option.some.inj hpayload
    rw [if_pos hmagic] at hi
    obtain ⟨c, rfl, -, -⟩ := hi
    have hlong := length_civ1 c
    have htext := hL.length_le_b64urlEncode c.bytes
    rw [hL.b64urlEncode_of_decode _ _ hbytes, String.toList_ofList] at htext
    have hle := length_le_byteLength (trimChars raw.toList)
    omega

theorem recognised_of_looksLikeInvite (hL : L.Strict) {raw : String} {i : Invite}
    (h : parseInvite L clock raw = .ok i) (hlooks : looksLikeInvite L raw) : Recognised L raw := by
  by_cases hparam : (afterText "invite=".toList (trimChars raw.toList)).isSome
  · exact .inl hparam
  · have hnone := Option.not_isSome_iff_eq_none.mp hparam
    obtain ⟨bytes, hpayload, -⟩ := parseInvite_eq_ok.mp h
    obtain ⟨hcolon, hdot⟩ := mem_payload hL ((payloadBytes_bare hnone).mp hpayload)
    rw [String.toList_ofList] at hcolon hdot
    rcases looksLikeInvite_eq_true.mp hlooks with h | h | h | ⟨-, h⟩
    · exact absurd h hparam
    · exact absurd (h.subset (by decide)) hcolon
    · exact absurd (mem_of_afterText h '.' (by decide)) hdot
    · exact .inr h

/-- What parses looks like an invite exactly when it is recognised. Then the search box redeems it,
and otherwise it is taken for a user name. -/
theorem looksLikeInvite_iff (hL : L.Strict) {raw : String} {i : Invite}
    (h : parseInvite L clock raw = .ok i) : (looksLikeInvite L raw ↔ Recognised L raw) ∧
      (Recognised L raw → Sliced.submitContactSearch L clock clock' raw.toList =
        Sliced.redeemPastedInvite L clock clock' (String.ofList (trimChars raw.toList))) ∧
      (¬Recognised L raw → Sliced.submitContactSearch L clock clock' raw.toList =
        .ok (Sliced.searchUsername raw.toList)) := by
  have hiff : looksLikeInvite L raw ↔ Recognised L raw :=
    ⟨recognised_of_looksLikeInvite hL h, looksLikeInvite_of_recognised hL h⟩
  unfold Sliced.submitContactSearch
  dsimp only
  rw [looksLikeInvite_trim]
  exact ⟨hiff, fun hr => if_pos (hiff.mpr hr), fun hr => if_neg fun hlooks => hr (hiff.mp hlooks)⟩

/-- The payload of the link alone is not recognised. -/
theorem not_recognised_jsonPayload (uuid : String) (ts : ℤ) :
    ¬Recognised (jsonLibs uuid ts) (jsonPayload uuid ts) := by
  have hchars : ∀ c ∈ (jsonPayload uuid ts).toList, isUrlChar c :=
    (jsonLibs uuid ts).mem_b64urlEncode _
  have hnone : afterText "invite=".toList (jsonPayload uuid ts).toList = none :=
    afterText_eq_none (c := '=') (by decide) fun hc => (hchars _ hc).ne (d := '=') (by decide) rfl
  unfold Recognised
  rw [trimChars_of_bare (bare_payload hchars), hnone, String.ofList_toList]
  rintro (h | ⟨bytes, hbytes, hmagic⟩)
  · cases h
  · rw [jsonPayload, InviteLibs.b64url_decode_encode] at hbytes
    obtain rfl := Option.some.inj hbytes
    rw [not_magic_json] at hmagic
    cases hmagic

/-- A link to JSON of a user `b` looks like an invite. -/
theorem looksLikeInvite_link :
    looksLikeInvite (jsonLibs "b" 1700000000) (jsonLink "b" 1700000000) :=
  (@looksLikeInvite_iff _ none none (InviteLibs.strict_plain _ _ _) _ _
    (parseInvite_json _ _ (payloadBytes_jsonLink _ _) none)).1.mpr (.inl (afterText_jsonLink _ _))

/-- The payload of the link alone parses as well, and is taken for a user name. -/
theorem looksLikeInvite_payload :
    (∃ i, parseInvite (jsonLibs "b" 1700000000) (some 1700000060) (jsonPayload "b" 1700000000) =
      .ok i) ∧
    looksLikeInvite (jsonLibs "b" 1700000000) (jsonPayload "b" 1700000000) = false := by
  have hparse := parseInvite_json "b" 1700000000 (payloadBytes_jsonPayload _ _) (some 1700000060)
  refine ⟨⟨_, hparse⟩, Bool.eq_false_iff.mpr fun hlooks => ?_⟩
  exact not_recognised_jsonPayload _ _
    (recognised_of_looksLikeInvite (InviteLibs.strict_plain _ _ _) hparse hlooks)

end Invite

/-! ### The app -/

namespace App

open Invite

variable {ε : Type} {L : InviteLibs} {clock clock' : Option UInt64}

/-- What the app does with what comes of a text. -/
def submitted : Submitted → Sys ε → Sys ε
  | .failed msg, s =>
    s.modApp fun a => { a with contactSearch := a.contactSearch.setError msg }
  | .redeeming invite username, s =>
    (s.modApp fun a => { a with contactSearch := { a.contactSearch with
      searching := true, status := some "Redeeming invite…" } }).spawn (.redeem invite username)
  | .searching query, s =>
    (s.modApp fun a => { a with contactSearch := { a.contactSearch with
      searching := true } }).spawn (.search query)

theorem length_encodeChars (cs : List Char) :
    (Utf8.encodeChars cs).length = Checked.byteLength cs := by
  induction cs with
  | nil => rfl
  | cons c cs ih =>
    rw [Utf8.encodeChars_cons, List.length_append, ih, String.length_utf8EncodeChar,
      Checked.byteLength_cons]

/-- The first bytes of an identifier are those of its short name. -/
theorem decodeLossy_of_shortUuid {uuid name : String} (h : Sliced.shortUuid uuid = .ok name) :
    Utf8.decodeLossy ((Utf8.encode uuid).take 8) = name := by
  obtain ⟨bs, huuid, hlength⟩ := Sliced.shortUuid_eq_ok.mp h
  have hencode : Utf8.encode uuid = Utf8.encode name ++ Utf8.encodeChars bs := by
    unfold Utf8.encode
    rw [huuid, Utf8.encodeChars_append]
  have hname : (Utf8.encode name).length = Checked.byteLength name.toList := length_encodeChars _
  have hrest : (Utf8.encodeChars bs).length = Checked.byteLength bs := length_encodeChars _
  rw [huuid, Checked.byteLength_append] at hlength
  have hnil : (Utf8.encodeChars bs).take (8 - (Utf8.encode name).length) = [] := by
    refine List.eq_nil_of_length_eq_zero ?_
    rw [List.length_take]
    omega
  rw [hencode, List.take_append, List.take_of_length_le (by omega), hnil, List.append_nil,
    Utf8.decodeLossy_encode]

theorem inviteUsername_eq {i : Invite} {name : String} (h : Sliced.inviteUsername i = .ok name) :
    inviteUsername i = name := by
  unfold Sliced.inviteUsername at h
  unfold inviteUsername
  cases hun : i.un.filter fun un => un ≠ "" with
  | some un =>
    rw [hun] at h
    exact Except.ok.inj h
  | none =>
    rw [hun] at h
    exact decodeLossy_of_shortUuid h

/-- The app does with a text what comes of it, when nothing panics. -/
theorem submitContactSearch_eq {E : AppExternals ε} {ans : Answers ε} {s : Sys ε} {r : Submitted}
    (hlooks : E.looksLikeInvite = looksLikeInvite L)
    (hparse : ∀ raw, E.parseInvite raw ans.nowSecs = parseInvite L clock raw)
    (hclock : nowUnix clock' = ans.nowSecs)
    (h : Sliced.submitContactSearch L clock clock' s.app.contactSearch.query = .ok r) :
    submitContactSearch E ans s = submitted r s := by
  unfold Sliced.submitContactSearch at h
  unfold submitContactSearch
  dsimp only at h ⊢
  rw [hlooks]
  by_cases hl : looksLikeInvite L (String.ofList (trimChars s.app.contactSearch.query))
  · rw [if_pos hl] at h ⊢
    unfold Sliced.redeemPastedInvite at h
    unfold redeemPastedInvite
    obtain ⟨_, hparsed, h⟩ := Checked.bind_eq_ok.mp h
    obtain ⟨-, rfl⟩ := Sliced.parseInvite_eq_ok.mp hparsed
    rw [hparse]
    cases hi : parseInvite L clock (String.ofList (trimChars s.app.contactSearch.query)) with
    | error e =>
      rw [hi] at h
      obtain rfl := Except.ok.inj h
      rfl
    | ok i =>
      rw [hi] at h
      obtain ⟨-, h⟩ := redeemParsed_eq_ok.mp h
      dsimp only
      rw [← hclock]
      by_cases hexpired : i.isExpired (nowUnix clock')
      · rw [if_pos hexpired] at h ⊢
        rw [h]
        rfl
      · rw [if_neg hexpired] at h ⊢
        obtain ⟨name, hname, rfl⟩ := h
        rw [inviteUsername_eq hname]
        rfl
  · rw [if_neg hl] at h ⊢
    obtain rfl := Except.ok.inj h
    unfold Sliced.searchUsername
    dsimp only
    by_cases hsearchable : usernameIsSearchable (normalizeUsername s.app.contactSearch.query)
    · rw [hsearchable]
      rfl
    · rw [Bool.eq_false_iff.mpr hsearchable]
      rfl

end App

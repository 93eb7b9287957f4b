import ConstructTui.Invite.Basic
import ConstructTui.Lib.Fields

/-!
# What a signature says about an invite

The signed string joins the fields of an invite by bars, as they are. It determines the signed
fields unless a bar in one of them can be taken for one between them.

## Main definitions

* `Invite.SignedAlike`: two invites agree on what their version signs.
* `Invite.Separated`: no field of an invite can be taken for several.

## Main results

* `Invite.canonicalString_eq_ok`: the signed string as fields, with the time as a mark among them.
* `Invite.signedAlike_iff`: the signed string determines what is signed exactly for these.
* `Invite.time_in_username`: an invite for which it does not.
-/

namespace Invite

open Fields

variable (L : InviteLibs)

/-- The time and the lifetime fit the types they have in an invite. -/
structure InRange (i : Invite) : Prop where
  ts : -(2 ^ 63) ≤ i.ts ∧ i.ts < 2 ^ 63
  ttl : ∀ t, i.ttl = some t → t < 2 ^ 32

/-- Two invites agree on every field that their version signs. -/
structure SignedAlike (a b : Invite) : Prop where
  v : a.v = b.v
  jti : L.tables.toLowercase a.jti = L.tables.toLowercase b.jti
  uuid : L.tables.toLowercase a.uuid = L.tables.toLowercase b.uuid
  deviceId : 2 ≤ a.v.toNat → a.deviceId = b.deviceId
  server : a.server = b.server
  ephKey : a.v.toNat ≤ 3 → a.ephKey = b.ephKey
  ts : a.ts = b.ts
  un : 3 ≤ a.v.toNat → a.un.getD "" = b.un.getD ""
  ttl : a.v.toNat = 5 → a.ttl = b.ttl

/-- No field holds a bar, but for a user name none of whose pieces, its last apart, is a time. -/
structure Separated (i : Invite) : Prop where
  jti : '|' ∉ i.jti.toList
  uuid : '|' ∉ i.uuid.toList
  deviceId : 2 ≤ i.v.toNat → '|' ∉ i.deviceId.toList
  server : '|' ∉ i.server.toList
  ephKey : i.v.toNat ≤ 3 → '|' ∉ i.ephKey.toList
  un : 3 ≤ i.v.toNat → ∀ t : ℤ, -(2 ^ 63) ≤ t → t < 2 ^ 63 →
    (toString t).toList ∉ (pieces '|' (i.un.getD "").toList).dropLast

/-! ### The signed string as fields -/

/-- A version that is supported, with a lifetime where it has one. -/
def Signable (i : Invite) : Prop :=
  1 ≤ i.v.toNat ∧ i.v.toNat ≤ 5 ∧ (i.v.toNat = 5 → i.ttl.isSome)

/-- The fields before the time, but for the version. -/
def leading (i : Invite) : List (List Char) :=
  [(L.tables.toLowercase i.jti).toList, (L.tables.toLowercase i.uuid).toList] ++
    ((if 2 ≤ i.v.toNat then [i.deviceId.toList] else []) ++ ([i.server.toList] ++
      (if i.v.toNat ≤ 3 then [i.ephKey.toList] else [])))

def mark (i : Invite) : List Char := (toString i.ts).toList

/-- The fields behind the time. -/
def trailing (i : Invite) : List (List Char) :=
  (if 3 ≤ i.v.toNat then [(i.un.getD "").toList] else []) ++
    (if i.v.toNat = 5 then [(toString (i.ttl.getD 0)).toList] else [])

def version (i : Invite) : List Char := (toString i.v.toNat).toList

variable {L}

theorem canonicalString_eq_ok {i : Invite} {s : String} : canonicalString L i = .ok s ↔
    i.Signable ∧ s.toList = join '|' ((i.version :: leading L i) ++ i.mark :: i.trailing) := by
  have hjoin (l : List String) :
      "|".intercalate l = s ↔ s.toList = join '|' (l.map String.toList) := by
    rw [← String.toList_inj, String.toList_intercalate, eq_comm]
    rfl
  unfold canonicalString Signable version leading mark trailing
  dsimp only
  split
  · next hv =>
    rw [Except.ok.injEq, hjoin]
    simp [hv]
  · next hv =>
    rw [Except.ok.injEq, hjoin]
    simp [hv]
  · next hv =>
    rw [Except.ok.injEq, hjoin]
    simp [hv]
  · next hv =>
    rw [Except.ok.injEq, hjoin]
    simp [hv]
  · next hv =>
    cases httl : i.ttl with
    | none => simp [hv, context, bind, Except.bind]
    | some t =>
      show Except.ok _ = .ok s ↔ _
      rw [Except.ok.injEq, hjoin]
      simp [hv]
  · next h₁ h₂ h₃ h₄ h₅ =>
    refine iff_of_false (fun h => by cases h) fun h => ?_
    obtain ⟨⟨hone, hfive, -⟩, -⟩ := h
    have hv : i.v.toNat ∉ [1, 2, 3, 4, 5] := by simpa using ⟨h₁, h₂, h₃, h₄, h₅⟩
    refine hv ?_
    simp only [List.mem_cons]
    omega

/-! ### When it determines them -/

theorem bar_not_mem_version (i : Invite) : '|' ∉ i.version := not_mem_toString_nat rfl _

theorem bar_not_mem_mark (i : Invite) : '|' ∉ i.mark := not_mem_toString_int rfl (by decide) _

/-- The version is the first piece of the signed string. -/
theorem version_eq_of_join {a b : Invite} {as bs : List (List Char)}
    (h : join '|' (a.version :: as) = join '|' (b.version :: bs)) : a.v = b.v := by
  have hpieces := congrArg (pieces '|') h
  have hhead (i : Invite) (fs : List (List Char)) :
      pieces '|' (join '|' (i.version :: fs)) = i.version :: allPieces '|' fs := by
    rw [pieces_join (List.cons_ne_nil _ _), allPieces, List.flatMap_cons,
      pieces_of_not_mem i.bar_not_mem_version]
    rfl
  rw [hhead, hhead] at hpieces
  exact UInt8.toNat_inj.mp (toList_toString_nat_inj (List.cons.inj hpieces).1)

theorem Separated.bar_not_mem_leading {i : Invite} (h : i.Separated) :
    ∀ f ∈ i.version :: leading L i, '|' ∉ f := by
  intro f hf
  rcases List.mem_cons.mp hf with rfl | hf
  · exact i.bar_not_mem_version
  · unfold leading at hf
    simp only [List.mem_append, List.mem_cons, List.not_mem_nil, or_false] at hf
    obtain (rfl | rfl) | hdevice | rfl | heph := hf
    · rw [CaseTables.bar_mem_toLowercase]
      exact h.jti
    · rw [CaseTables.bar_mem_toLowercase]
      exact h.uuid
    · split at hdevice
      · next hv =>
        obtain rfl := List.mem_singleton.mp hdevice
        exact h.deviceId hv
      · cases hdevice
    · exact h.server
    · split at heph
      · next hv =>
        obtain rfl := List.mem_singleton.mp heph
        exact h.ephKey hv
      · cases heph

/-- What stands behind the time could be read as time and as much behind it from the pieces of the
user name on, its last apart. -/
theorem couldMark_trailing (i : Invite) : couldMark '|' i.trailing =
    if 3 ≤ i.v.toNat then (pieces '|' (i.un.getD "").toList).dropLast else [] := by
  unfold couldMark trailing
  split
  · split
    · rw [allPieces, List.singleton_append, List.flatMap_cons, List.flatMap_cons, List.flatMap_nil,
        pieces_of_not_mem (not_mem_toString_nat rfl _), List.dropLast_eq_take, List.append_nil,
        List.length_append]
      exact List.take_append_of_le_length (Nat.sub_le _ 1)
    · rw [allPieces, List.append_nil, List.flatMap_cons, List.flatMap_nil, List.append_nil,
        List.dropLast_eq_take]
      simp
  · split
    · omega
    · rfl

theorem length_leading {a b : Invite} (hv : a.v = b.v) :
    (leading L a).length = (leading L b).length := by
  unfold leading
  simp only [hv, List.length_append, List.length_cons, List.length_nil, apply_ite List.length]

theorem length_trailing {a b : Invite} (hv : a.v = b.v) :
    a.trailing.length = b.trailing.length := by
  unfold trailing
  simp only [hv, List.length_append, List.length_cons, List.length_nil, apply_ite List.length]

/-- The lifetime stands behind the pieces of the user name. -/
theorem allPieces_trailing (i : Invite) : allPieces '|' i.trailing =
    (if 3 ≤ i.v.toNat then pieces '|' (i.un.getD "").toList else []) ++
      (if i.v.toNat = 5 then [(toString (i.ttl.getD 0)).toList] else []) := by
  have hflat (p : Prop) [Decidable p] (f : List Char) :
      (if p then [f] else []).flatMap (pieces '|') = if p then pieces '|' f else [] := by
    split <;> simp
  rw [trailing, allPieces, List.flatMap_append, hflat, hflat,
    pieces_of_not_mem (not_mem_toString_nat rfl _)]

/-- The signed string of an invite with separate fields determines what is signed. -/
theorem Separated.signedAlike {a b : Invite} {s : String} (ha : a.Separated) (hb : b.InRange)
    (hsa : canonicalString L a = .ok s) (hsb : canonicalString L b = .ok s) :
    SignedAlike L a b := by
  obtain ⟨⟨-, -, httla⟩, hsa⟩ := canonicalString_eq_ok.mp hsa
  obtain ⟨⟨-, -, httlb⟩, hsb⟩ := canonicalString_eq_ok.mp hsb
  have h := hsa.symm.trans hsb
  have hv : a.v = b.v := version_eq_of_join h
  have hcould : b.mark ∉ couldMark '|' a.trailing := by
    rw [couldMark_trailing]
    split
    · next hthree => exact ha.un hthree b.ts hb.ts.1 hb.ts.2
    · exact List.not_mem_nil
  obtain ⟨hleading, hmark, htrailing⟩ := join_inj
    (congrArg (· + 1) (length_leading hv)) (length_trailing hv)
    ha.bar_not_mem_leading a.bar_not_mem_mark b.bar_not_mem_mark hcould h
  have hleading := (List.cons.inj hleading).2
  unfold leading at hleading
  rw [← hv] at hleading
  obtain ⟨hids, hrest⟩ := List.append_inj hleading (by simp only [List.length_cons])
  obtain ⟨hdevice, hrest⟩ := List.append_inj hrest (by
    simp only [apply_ite List.length, List.length_cons, List.length_nil])
  obtain ⟨hserver, heph⟩ := List.append_inj hrest (by simp only [List.length_cons])
  obtain ⟨hjti, huuid⟩ := List.cons.inj hids
  rw [allPieces_trailing, allPieces_trailing, ← hv] at htrailing
  obtain ⟨hun, httl⟩ := List.append_inj' htrailing (by
    simp only [apply_ite List.length, List.length_cons, List.length_nil])
  exact {
    v := hv
    jti := String.toList_inj.mp hjti
    uuid := String.toList_inj.mp (List.cons.inj huuid).1
    deviceId := fun htwo => by
      rw [if_pos htwo, if_pos htwo] at hdevice
      exact String.toList_inj.mp (List.cons.inj hdevice).1
    server := String.toList_inj.mp (List.cons.inj hserver).1
    ephKey := fun hthree => by
      rw [if_pos hthree, if_pos hthree] at heph
      exact String.toList_inj.mp (List.cons.inj heph).1
    ts := toList_toString_int_inj hmark
    un := fun hthree => by
      rw [if_pos hthree, if_pos hthree] at hun
      exact String.toList_inj.mp (pieces_inj hun)
    ttl := fun hfive => by
      obtain ⟨t, ht⟩ := Option.isSome_iff_exists.mp (httla hfive)
      obtain ⟨t', ht'⟩ := Option.isSome_iff_exists.mp (httlb (hv ▸ hfive))
      rw [if_pos hfive, if_pos hfive, ht, ht'] at httl
      rw [ht, ht', Option.some_inj]
      exact toList_toString_nat_inj (List.cons.inj httl).1 }

/-! ### When it does not -/

/-- Another invite of the same version, time, name and lifetime has the same signed string when its
fields before the time join to the same text. -/
theorem canonicalString_of_leading {a b : Invite} {s : String} (hs : canonicalString L a = .ok s)
    (hv : b.v = a.v) (hts : b.ts = a.ts) (hun : b.un = a.un) (httl : b.ttl = a.ttl)
    (h : ∀ rest, join '|' (a.version :: leading L b ++ rest) =
      join '|' (a.version :: leading L a ++ rest)) : canonicalString L b = .ok s := by
  obtain ⟨hsignable, hs⟩ := canonicalString_eq_ok.mp hs
  rw [canonicalString_eq_ok]
  constructor
  · unfold Signable at hsignable ⊢
    rw [hv, httl]
    exact hsignable
  · have hmark : b.mark = a.mark := by rw [mark, mark, hts]
    have htrailing : b.trailing = a.trailing := by rw [trailing, trailing, hv, hun, httl]
    have hversion : b.version = a.version := by rw [version, version, hv]
    rw [hs, hmark, htrailing, hversion, h]

/-- Some other invite that does not agree on what is signed has the same signed string. -/
def Mistakable (L : InviteLibs) (a : Invite) (s : String) : Prop :=
  ∃ b : Invite, b.InRange ∧ canonicalString L b = .ok s ∧ ¬SignedAlike L a b

variable {a : Invite} {s : String}

theorem toLowercase_ofList {cs : List Char} (h : ∀ c ∈ cs, L.tables.Fixed c) :
    L.tables.toLowercase (String.ofList cs) = String.ofList cs :=
  CaseTables.toLowercase_of_fixed (by rwa [String.toList_ofList])

theorem append_cons_ne_left {c : Char} (as bs : List Char) : as ++ c :: bs ≠ as := by
  intro h
  have hlen := congrArg List.length h
  rw [List.length_append, List.length_cons] at hlen
  omega

/-- A bar in the identifier of the invite can end it. -/
theorem mistakable_of_jti (ha : a.InRange) (hs : canonicalString L a = .ok s)
    (h : '|' ∈ a.jti.toList) : Mistakable L a s := by
  rw [← CaseTables.bar_mem_toLowercase (T := L.tables)] at h
  obtain ⟨as, bs, hjti⟩ := List.append_of_mem h
  have hfixed (c : Char) (hc : c ∈ as ++ '|' :: bs) : L.tables.Fixed c :=
    CaseTables.fixed_of_mem_toLowercase (hjti ▸ hc)
  let uuid := bs ++ '|' :: (L.tables.toLowercase a.uuid).toList
  have hlower : L.tables.toLowercase (String.ofList as) = String.ofList as :=
    toLowercase_ofList fun c hc => hfixed c (List.mem_append_left _ hc)
  have hlower' : L.tables.toLowercase (String.ofList uuid) = String.ofList uuid := by
    refine toLowercase_ofList fun c hc => ?_
    rcases List.mem_append.mp hc with hc | hc
    · exact hfixed c (List.mem_append_right _ (List.mem_cons_of_mem _ hc))
    · rcases List.mem_cons.mp hc with rfl | hc
      · exact hfixed _ (List.mem_append_right _ List.mem_cons_self)
      · exact CaseTables.fixed_of_mem_toLowercase hc
  refine ⟨{ a with jti := String.ofList as, uuid := String.ofList uuid }, ⟨ha.ts, ha.ttl⟩,
    canonicalString_of_leading hs rfl rfl rfl rfl fun rest => ?_, fun hsame => ?_⟩
  · unfold leading
    dsimp only
    rw [hlower, hlower', hjti, String.toList_ofList, String.toList_ofList]
    exact (join_shift [a.version] _ as bs _).symm
  · have heq := congrArg String.toList (hsame.jti.trans hlower)
    rw [hjti, String.toList_ofList] at heq
    exact append_cons_ne_left as bs heq

/-- A bar in the identifier of the user can end it: the rest goes to the device or to the server. -/
theorem mistakable_of_uuid (ha : a.InRange) (hs : canonicalString L a = .ok s)
    (h : '|' ∈ a.uuid.toList) : Mistakable L a s := by
  rw [← CaseTables.bar_mem_toLowercase (T := L.tables)] at h
  obtain ⟨as, bs, huuid⟩ := List.append_of_mem h
  have hlower : L.tables.toLowercase (String.ofList as) = String.ofList as :=
    toLowercase_ofList fun c hc =>
      CaseTables.fixed_of_mem_toLowercase (huuid ▸ List.mem_append_left _ hc)
  have hdiffers {b : Invite} (hb : b.uuid = String.ofList as) : ¬SignedAlike L a b := by
    intro hsame
    have heq := hsame.uuid
    rw [hb, hlower] at heq
    have heq := congrArg String.toList heq
    rw [huuid, String.toList_ofList] at heq
    exact append_cons_ne_left as bs heq
  by_cases hv : 2 ≤ a.v.toNat
  · let device := bs ++ '|' :: a.deviceId.toList
    refine ⟨{ a with uuid := String.ofList as, deviceId := String.ofList device }, ⟨ha.ts, ha.ttl⟩,
      canonicalString_of_leading hs rfl rfl rfl rfl fun rest => ?_, hdiffers rfl⟩
    unfold leading
    dsimp only
    rw [hlower, huuid, String.toList_ofList, String.toList_ofList, if_pos hv, if_pos hv]
    exact (join_shift [a.version, _] _ as bs _).symm
  · let server := bs ++ '|' :: a.server.toList
    refine ⟨{ a with uuid := String.ofList as, server := String.ofList server }, ⟨ha.ts, ha.ttl⟩,
      canonicalString_of_leading hs rfl rfl rfl rfl fun rest => ?_, hdiffers rfl⟩
    unfold leading
    dsimp only
    rw [hlower, huuid, String.toList_ofList, String.toList_ofList, if_neg hv]
    exact (join_shift [a.version, _] _ as bs _).symm

/-- A bar in the device can end it. -/
theorem mistakable_of_deviceId (ha : a.InRange) (hs : canonicalString L a = .ok s)
    (hv : 2 ≤ a.v.toNat) (h : '|' ∈ a.deviceId.toList) : Mistakable L a s := by
  obtain ⟨as, bs, hdevice⟩ := List.append_of_mem h
  let server := bs ++ '|' :: a.server.toList
  refine ⟨{ a with deviceId := String.ofList as, server := String.ofList server }, ⟨ha.ts, ha.ttl⟩,
      canonicalString_of_leading hs rfl rfl rfl rfl fun rest => ?_, fun hsame => ?_⟩
  · unfold leading
    dsimp only
    rw [hdevice, String.toList_ofList, String.toList_ofList, if_pos hv, if_pos hv]
    exact (join_shift [a.version, _, _] _ as bs _).symm
  · have heq := congrArg String.toList (hsame.deviceId hv)
    rw [hdevice, String.toList_ofList] at heq
    exact append_cons_ne_left as bs heq

/-- A bar in the server can end it, or start it: the rest goes to the key or to the device. -/
theorem mistakable_of_server (ha : a.InRange) (hs : canonicalString L a = .ok s)
    (h : '|' ∈ a.server.toList) : Mistakable L a s := by
  obtain ⟨as, bs, hserver⟩ := List.append_of_mem h
  by_cases hv : a.v.toNat ≤ 3
  · let eph := bs ++ '|' :: a.ephKey.toList
    refine ⟨{ a with server := String.ofList as, ephKey := String.ofList eph }, ⟨ha.ts, ha.ttl⟩,
      canonicalString_of_leading hs rfl rfl rfl rfl fun rest => ?_, fun hsame => ?_⟩
    · unfold leading
      dsimp only
      rw [hserver, String.toList_ofList, String.toList_ofList, if_pos hv, if_pos hv]
      split
      · exact (join_shift [a.version, _, _, _] _ as bs _).symm
      · exact (join_shift [a.version, _, _] _ as bs _).symm
    · have heq := congrArg String.toList hsame.server
      rw [hserver, String.toList_ofList] at heq
      exact append_cons_ne_left as bs heq
  · have htwo : 2 ≤ a.v.toNat := by omega
    let device := a.deviceId.toList ++ '|' :: as
    refine ⟨{ a with deviceId := String.ofList device, server := String.ofList bs },
      ⟨ha.ts, ha.ttl⟩,
      canonicalString_of_leading hs rfl rfl rfl rfl fun rest => ?_, fun hsame => ?_⟩
    · unfold leading
      dsimp only
      rw [hserver, String.toList_ofList, String.toList_ofList, if_pos htwo, if_pos htwo, if_neg hv]
      exact join_shift [a.version, _, _] _ _ as bs
    · have heq := congrArg String.toList (hsame.deviceId htwo)
      rw [String.toList_ofList] at heq
      exact append_cons_ne_left _ as heq.symm

/-- A bar in the key can start it. -/
theorem mistakable_of_ephKey (ha : a.InRange) (hs : canonicalString L a = .ok s)
    (hv : a.v.toNat ≤ 3) (h : '|' ∈ a.ephKey.toList) : Mistakable L a s := by
  obtain ⟨as, bs, heph⟩ := List.append_of_mem h
  let server := a.server.toList ++ '|' :: as
  refine ⟨{ a with server := String.ofList server, ephKey := String.ofList bs }, ⟨ha.ts, ha.ttl⟩,
      canonicalString_of_leading hs rfl rfl rfl rfl fun rest => ?_, fun hsame => ?_⟩
  · unfold leading
    dsimp only
    rw [heph, String.toList_ofList, String.toList_ofList, if_pos hv, if_pos hv]
    split
    · exact join_shift [a.version, _, _, _] _ _ as bs
    · exact join_shift [a.version, _, _] _ _ as bs
  · have heq := congrArg String.toList hsame.server
    rw [String.toList_ofList] at heq
    exact append_cons_ne_left _ as heq.symm

/-- The last field before the time is the key or the server, and can be any text. -/
theorem exists_last (L : InviteLibs) (a : Invite) : ∃ before last, leading L a = before ++ [last] ∧
    ∀ cs, ∃ b : Invite, leading L b = before ++ [cs] ∧ b.v = a.v ∧ b.ttl = a.ttl := by
  unfold leading
  by_cases hv : a.v.toNat ≤ 3
  · rw [if_pos hv, ← List.append_assoc, ← List.append_assoc]
    refine ⟨_, _, rfl, fun cs => ⟨{ a with ephKey := String.ofList cs }, ?_, rfl, rfl⟩⟩
    dsimp only
    rw [if_pos hv, ← List.append_assoc, ← List.append_assoc, String.toList_ofList]
  · rw [if_neg hv, List.append_nil, ← List.append_assoc]
    refine ⟨_, _, rfl, fun cs => ⟨{ a with server := String.ofList cs }, ?_, rfl, rfl⟩⟩
    dsimp only
    rw [if_neg hv, List.append_nil, ← List.append_assoc, String.toList_ofList]

theorem SignedAlike.leading_eq {b : Invite} (h : SignedAlike L a b) :
    leading L a = leading L b := by
  unfold leading
  rw [h.jti, h.uuid, h.server, h.v]
  have hdevice : (if 2 ≤ b.v.toNat then [a.deviceId.toList] else []) =
      if 2 ≤ b.v.toNat then [b.deviceId.toList] else [] := by
    split
    · next hv => rw [h.deviceId (h.v ▸ hv)]
    · rfl
  have heph : (if b.v.toNat ≤ 3 then [a.ephKey.toList] else []) =
      if b.v.toNat ≤ 3 then [b.ephKey.toList] else [] := by
    split
    · next hv => rw [h.ephKey (h.v ▸ hv)]
    · rfl
  rw [hdevice, heph]

/-- A piece of the user name can be read as the time: all before it goes to the key or the
server. -/
theorem mistakable_of_un (ha : a.InRange) (hs : canonicalString L a = .ok s) (hv : 3 ≤ a.v.toNat)
    {t : ℤ} (ht : -(2 ^ 63) ≤ t ∧ t < 2 ^ 63)
    (h : (toString t).toList ∈ (pieces '|' (a.un.getD "").toList).dropLast) :
    Mistakable L a s := by
  obtain ⟨ps, rs, hdrop⟩ := List.append_of_mem h
  let qs := rs ++ [(pieces '|' (a.un.getD "").toList).getLast (pieces_ne_nil _)]
  have hpieces : pieces '|' (a.un.getD "").toList = ps ++ (toString t).toList :: qs := by
    rw [← List.dropLast_append_getLast (pieces_ne_nil (x := '|') (a.un.getD "").toList), hdrop]
    simp [qs]
  have hun : (a.un.getD "").toList = join '|' (ps ++ (toString t).toList :: qs) := by
    rw [← hpieces, join_pieces]
  obtain ⟨hsignable, hs⟩ := canonicalString_eq_ok.mp hs
  obtain ⟨before, last, hleading, hlast⟩ := exists_last L a
  obtain ⟨b, hleading', hbv, hbttl⟩ := hlast (last ++ '|' :: join '|' (a.mark :: ps))
  let b' : Invite := { b with ts := t, un := some (String.ofList (join '|' qs)) }
  have hb : leading L b' = leading L b := rfl
  refine ⟨b', ⟨ht, fun t ht => ha.ttl t (hbttl ▸ ht)⟩, canonicalString_eq_ok.mpr ⟨?_, ?_⟩, ?_⟩
  · unfold Signable at hsignable ⊢
    rw [show b'.v = a.v from hbv, show b'.ttl = a.ttl from hbttl]
    exact hsignable
  · let tail := if a.v.toNat = 5 then [(toString (a.ttl.getD 0)).toList] else []
    have htrailing : a.trailing = (a.un.getD "").toList :: tail := by
      rw [trailing, if_pos hv]
      rfl
    have htrailing' : b'.trailing = join '|' qs :: tail := by
      rw [trailing, show b'.v = a.v from hbv, show b'.ttl = a.ttl from hbttl, if_pos hv,
        show b'.un = some (String.ofList (join '|' qs)) from rfl, Option.getD_some,
        String.toList_ofList]
      rfl
    have hshift := join_shift_mark (a.version :: before) tail last a.mark (toString t).toList ps
      (x := '|') (show qs ≠ [] by simp [qs])
    have hversion : b'.version = a.version := by rw [version, version, show b'.v = a.v from hbv]
    have hmark : b'.mark = (toString t).toList := rfl
    rw [hs, hleading, htrailing, hun, hb, hleading', htrailing', hversion, hmark]
    simpa only [List.append_assoc, List.cons_append, List.nil_append] using hshift
  · intro hsame
    have heq := hsame.leading_eq
    rw [hleading, hb, hleading'] at heq
    exact append_cons_ne_left _ _ (List.cons.inj (List.append_cancel_left heq)).1.symm

/-- The signed string determines what is signed exactly when no field can be taken for several. -/
theorem signedAlike_iff (ha : a.InRange) (hs : canonicalString L a = .ok s) :
    (∀ b : Invite, b.InRange → canonicalString L b = .ok s → SignedAlike L a b) ↔ a.Separated := by
  constructor
  · intro hall
    have hnot : ¬Mistakable L a s := fun ⟨b, hb, hsb, hdiffers⟩ => hdiffers (hall b hb hsb)
    exact ⟨fun h => hnot (mistakable_of_jti ha hs h), fun h => hnot (mistakable_of_uuid ha hs h),
      fun hv h => hnot (mistakable_of_deviceId ha hs hv h),
      fun h => hnot (mistakable_of_server ha hs h),
      fun hv h => hnot (mistakable_of_ephKey ha hs hv h),
      fun hv t hlow hhigh h => hnot (mistakable_of_un ha hs hv ⟨hlow, hhigh⟩ h)⟩
  · exact fun h b hb hsb => h.signedAlike hb hs hsb

/-- Surroundings whose signatures are empty. -/
def unsignedLibs : InviteLibs := .plain [] zeroSignature fun _ => .error "expected value"

/-- An invite of a user `name` to `server`, dated `ts`. -/
def inviteOf (server : String) (ts : ℤ) (name : String) : Invite :=
  ⟨5, "11111111-1111-4111-8111-111111111111", "22222222-2222-4222-8222-222222222222",
    "0123456789abcdef0123456789abcdef", server, "", ts, "", some name, some 300⟩

/-- The signed string of an invite of a user `fox` determines what is signed. -/
theorem signedAlike_fox : ∃ s,
    canonicalString unsignedLibs (inviteOf "konstruct.cc" 1700000000 "fox") = .ok s ∧
      ∀ b : Invite, b.InRange → canonicalString unsignedLibs b = .ok s →
        SignedAlike unsignedLibs (inviteOf "konstruct.cc" 1700000000 "fox") b := by
  have hrange : (inviteOf "konstruct.cc" 1700000000 "fox").InRange := by
    refine ⟨by decide, fun t ht => ?_⟩
    obtain rfl := Option.some.inj ht
    decide
  refine ⟨_, rfl, (signedAlike_iff hrange rfl).mpr ?_⟩
  refine ⟨by decide, by decide, fun _ => by decide, by decide, fun _ => by decide, ?_⟩
  intro _ t _ _ h
  have hpieces : (pieces '|' "fox".toList).dropLast = [] := by decide
  rw [show (inviteOf "konstruct.cc" 1700000000 "fox").un.getD "" = "fox" from rfl, hpieces] at h
  cases h

/-- A user name with a time in it: what is signed is also an invite to another server, of a later
time and of another user. -/
theorem time_in_username : ∃ s,
    canonicalString unsignedLibs (inviteOf "konstruct.cc" 1700000000 "1800000000|fox") = .ok s ∧
    canonicalString unsignedLibs (inviteOf "konstruct.cc|1700000000" 1800000000 "fox") = .ok s ∧
    ¬SignedAlike unsignedLibs (inviteOf "konstruct.cc" 1700000000 "1800000000|fox")
      (inviteOf "konstruct.cc|1700000000" 1800000000 "fox") := by
  refine ⟨_, rfl, ?_, fun h => absurd h.ts (by decide)⟩
  decide +kernel

end Invite

import ConstructTui.Invite.Basic

/-!
# Strict decoders

The decoders of base64 read a text only if it is the one that encoding gives: the padding and the
bits that stand for nothing are checked. Text in hexadecimal and UUIDs hold digits and a few signs.

## Main definitions

* `InviteLibs.Strict`: the encodings are so.

## Main results

* `InviteLibs.strict_plain`: they are, as they are written out here.
-/

/-- Decoders of base64 that read nothing but what is encoded, and what the characters are. -/
structure InviteLibs.Strict (L : InviteLibs) : Prop where
  b64Encode_of_decode : ∀ s bs, L.b64Decode s = some bs → L.b64Encode bs = s
  b64urlEncode_of_decode : ∀ s bs, L.b64urlDecode s = some bs → L.b64urlEncode bs = s
  mem_b64Encode : ∀ bs, ∀ c ∈ (L.b64Encode bs).toList, c.isAlphanum ∨ c = '+' ∨ c = '/' ∨ c = '='
  length_le_b64urlEncode : ∀ bs, bs.length ≤ (L.b64urlEncode bs).toList.length
  mem_hexEncode : ∀ bs, ∀ c ∈ (L.hexEncode bs).toList, '0' ≤ c ∧ c ≤ '9' ∨ 'a' ≤ c ∧ c ≤ 'f'
  bar_not_mem_hex : ∀ s bs, L.hexDecode s = some bs → '|' ∉ s.toList
  bar_not_mem_uuid : ∀ s u, L.uuidParse s = some u → '|' ∉ s.toList

namespace Base64

theorem length_le_sextets (bs : List UInt8) : bs.length ≤ (sextets bs).length := by
  induction bs using sextets.induct with
  | case1 => exact le_rfl
  | case2 a => exact Nat.le_succ 1
  | case3 a b => exact Nat.le_succ 2
  | case4 a b c bs ih =>
    rw [sextets]
    simp only [List.length_cons]
    omega

theorem length_le_encode (d : Dialect) (bs : List UInt8) : bs.length ≤ (encode d bs).length := by
  have hle := length_le_sextets bs
  unfold encode
  rw [List.length_append, List.length_map]
  omega

theorem mem_encode_or {d : Dialect} {bs : List UInt8} :
    ∀ c ∈ encode d bs, c ∈ d.digits ∨ c = '=' := by
  intro c hc
  unfold encode at hc
  rcases List.mem_append.mp hc with hc | hc
  · obtain ⟨n, hn, rfl⟩ := List.mem_map.mp hc
    exact .inl (d.digit_mem (sextets_lt bs n hn))
  · exact .inr (List.eq_of_mem_replicate hc)

end Base64

namespace Hex

theorem isSome_value_of_decode {cs : List Char} {bs : List UInt8} (h : decode cs = some bs) :
    ∀ c ∈ cs, (value c).isSome := by
  induction cs using decode.induct generalizing bs with
  | case1 => exact List.forall_mem_nil _
  | case2 => cases h
  | case3 a b cs ih =>
    rw [decode] at h
    obtain ⟨high, hhigh, h⟩ := Option.bind_eq_some_iff.mp h
    obtain ⟨low, hlow, h⟩ := Option.bind_eq_some_iff.mp h
    obtain ⟨rest, hrest, -⟩ := Option.bind_eq_some_iff.mp h
    exact List.forall_mem_cons.mpr ⟨by rw [hhigh]; rfl,
      List.forall_mem_cons.mpr ⟨by rw [hlow]; rfl, ih hrest⟩⟩

theorem bar_not_mem_of_decode {cs : List Char} {bs : List UInt8} (h : decode cs = some bs) :
    '|' ∉ cs := by
  intro hbar
  have hvalue := isSome_value_of_decode h '|' hbar
  rw [show value '|' = none by decide] at hvalue
  cases hvalue

theorem mem_encode (bs : List UInt8) :
    ∀ c ∈ encode bs, '0' ≤ c ∧ c ≤ '9' ∨ 'a' ≤ c ∧ c ≤ 'f' := by
  have hdigit : ∀ n < 16, '0' ≤ digit n ∧ digit n ≤ '9' ∨ 'a' ≤ digit n ∧ digit n ≤ 'f' := by
    decide
  intro c hc
  obtain ⟨b, -, hb⟩ := List.mem_flatMap.mp hc
  have hlt : b.toNat < 256 := b.toNat_lt
  obtain rfl | rfl : c = digit (b.toNat / 16) ∨ c = digit (b.toNat % 16) := by
    simpa [byte] using hb
  · exact hdigit _ (by omega)
  · exact hdigit _ (by omega)

end Hex

theorem Uuid.bar_not_mem_of_parse {s : String} {u : UuidBytes} (h : Uuid.parse s = some u) :
    '|' ∉ s.toList := by
  unfold Uuid.parse at h
  obtain ⟨bs, hbs, -⟩ := Option.bind_eq_some_iff.mp h
  exact fun hbar => Hex.bar_not_mem_of_decode hbs (List.mem_filter.mpr ⟨hbar, by decide⟩)

/-- The encodings as they are written out here are strict. -/
theorem InviteLibs.strict_plain (verifyingKey : Bytes)
    (signature : { bs : Bytes // bs.length = 64 }) (fromJson : Bytes → Except String LegacyJson) :
    (InviteLibs.plain verifyingKey signature fromJson).Strict where
  b64Encode_of_decode s bs h := by
    show String.ofList _ = s
    rw [Base64.encode_of_decode h, String.ofList_toList]
  b64urlEncode_of_decode s bs h := by
    show String.ofList _ = s
    rw [Base64.encode_of_decode h, String.ofList_toList]
  mem_b64Encode bs c hc := by
    have hdigits : Base64.standard.digits.all fun d => d.isAlphanum ∨ d = '+' ∨ d = '/' := by decide
    have hmem : c ∈ Base64.encode Base64.standard bs := by simpa [InviteLibs.plain] using hc
    rcases Base64.mem_encode_or c hmem with h | rfl
    · have hc : c.isAlphanum ∨ c = '+' ∨ c = '/' := by simpa using List.all_eq_true.mp hdigits c h
      rcases hc with h | h | h
      · exact .inl h
      · exact .inr (.inl h)
      · exact .inr (.inr (.inl h))
    · exact .inr (.inr (.inr rfl))
  length_le_b64urlEncode bs := by
    show bs.length ≤ (String.ofList _).toList.length
    rw [String.toList_ofList]
    exact Base64.length_le_encode _ bs
  mem_hexEncode bs c hc := Hex.mem_encode bs c (by simpa [InviteLibs.plain] using hc)
  bar_not_mem_hex _ _ := Hex.bar_not_mem_of_decode
  bar_not_mem_uuid _ _ := Uuid.bar_not_mem_of_parse

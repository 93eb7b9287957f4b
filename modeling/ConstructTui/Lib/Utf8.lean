import Mathlib.Data.List.Basic

/-!
# UTF-8 with replacement

The bytes of a string, and the lossy decoder that replaces every maximal ill-formed part of a
byte sequence by one U+FFFD. The decoder reads one chunk at a time: the scalar value of a
well-formed sequence, or the replacement character for the longest prefix that could still have
begun one.

## Main definitions

* `Utf8.encode`: the UTF-8 bytes of a string, as a list.
* `Utf8.lossyHead`, `Utf8.decodeLossy`: one chunk, and the whole decoder.
* `Utf8.decode?`: the decoder that refuses ill-formed bytes.

## Main results

* `Utf8.decodeLossy_encode`: decoding the bytes of a string gives the string back.
* `Utf8.length_decodeLossy_take_le`: cutting the bytes of a text adds at most two characters to
  what its own characters give.
-/

namespace Utf8

/-- The UTF-8 bytes of a list of characters. -/
def encodeChars (cs : List Char) : List UInt8 := cs.flatMap String.utf8EncodeChar

/-- The UTF-8 bytes of a string. -/
def encode (s : String) : List UInt8 := encodeChars s.toList

/-- U+FFFD, the replacement character. -/
def replacement : Char := Char.ofNat 0xFFFD

/-- A continuation byte `10xxxxxx`. -/
def isCont (b : UInt8) : Bool := 0x80 ≤ b.toNat && b.toNat < 0xC0

/-- The second bytes allowed after the first byte `n` of a three-byte sequence. -/
def isSecondOfThree (n m : Nat) : Bool :=
  (n = 0xE0 && 0xA0 ≤ m && m ≤ 0xBF) || (0xE1 ≤ n && n ≤ 0xEC && 0x80 ≤ m && m ≤ 0xBF) ||
    (n = 0xED && 0x80 ≤ m && m ≤ 0x9F) || (0xEE ≤ n && n ≤ 0xEF && 0x80 ≤ m && m ≤ 0xBF)

/-- The second bytes allowed after the first byte `n` of a four-byte sequence. -/
def isSecondOfFour (n m : Nat) : Bool :=
  (n = 0xF0 && 0x90 ≤ m && m ≤ 0xBF) || (0xF1 ≤ n && n ≤ 0xF3 && 0x80 ≤ m && m ≤ 0xBF) ||
    (n = 0xF4 && 0x80 ≤ m && m ≤ 0x8F)

/-- The chunk that starts at the byte `b`: its character, and how many bytes of `rest` belong to
it. Bytes past the end read as `0`, which continues nothing. -/
def lossyHead (b : UInt8) (rest : List UInt8) : Char × Nat :=
  let n := b.toNat
  let c₁ := rest.getD 0 0
  let c₂ := rest.getD 1 0
  let c₃ := rest.getD 2 0
  if n < 0x80 then (Char.ofNat n, 0)
  else if 0xC2 ≤ n ∧ n ≤ 0xDF then
    if isCont c₁ then (Char.ofNat (n % 32 * 64 + c₁.toNat % 64), 1) else (replacement, 0)
  else if 0xE0 ≤ n ∧ n ≤ 0xEF then
    if isSecondOfThree n c₁.toNat then
      if isCont c₂ then
        (Char.ofNat (n % 16 * 4096 + c₁.toNat % 64 * 64 + c₂.toNat % 64), 2)
      else (replacement, 1)
    else (replacement, 0)
  else if 0xF0 ≤ n ∧ n ≤ 0xF4 then
    if isSecondOfFour n c₁.toNat then
      if isCont c₂ then
        if isCont c₃ then
          (Char.ofNat (n % 8 * 262144 + c₁.toNat % 64 * 4096 + c₂.toNat % 64 * 64 +
            c₃.toNat % 64), 3)
        else (replacement, 2)
      else (replacement, 1)
    else (replacement, 0)
  else (replacement, 0)

/-- Decode at most `fuel` chunks. -/
def lossyLoop : ℕ → List UInt8 → List Char
  | 0, _ => []
  | _ + 1, [] => []
  | fuel + 1, b :: rest =>
    (lossyHead b rest).1 :: lossyLoop fuel (rest.drop (lossyHead b rest).2)

/-- The characters of a byte sequence; every chunk takes a byte, so the length is fuel enough. -/
def decodeLossyChars (bs : List UInt8) : List Char := lossyLoop bs.length bs

/-- Decode a byte sequence, replacing what is ill-formed. -/
def decodeLossy (bs : List UInt8) : String := String.ofList (decodeLossyChars bs)

/-- Decode a byte sequence, refusing what is ill-formed: the replacement character has bytes of
its own, so exactly the well-formed sequences survive decoding and encoding again. -/
def decode? (bs : List UInt8) : Option String :=
  if encode (decodeLossy bs) = bs then some (decodeLossy bs) else none

@[simp] theorem encodeChars_nil : encodeChars [] = [] := rfl

@[simp] theorem encodeChars_cons (c : Char) (cs : List Char) :
    encodeChars (c :: cs) = String.utf8EncodeChar c ++ encodeChars cs := rfl

theorem encodeChars_append (a b : List Char) :
    encodeChars (a ++ b) = encodeChars a ++ encodeChars b := List.flatMap_append

theorem encode_append (a b : String) : encode (a ++ b) = encode a ++ encode b := by
  unfold encode
  rw [String.toList_append, encodeChars_append]

theorem length_encodeChar_pos (c : Char) : 0 < (String.utf8EncodeChar c).length := by
  rw [String.length_utf8EncodeChar]
  exact c.utf8Size_pos

theorem length_le_encodeChars : (cs : List Char) → cs.length ≤ (encodeChars cs).length
  | [] => Nat.le_refl 0
  | c :: cs => by
    have hc := length_encodeChar_pos c
    have ih := length_le_encodeChars cs
    simp only [List.length_cons, encodeChars_cons, List.length_append]
    omega

theorem encodeChars_length_le (cs : List Char) : (encodeChars cs).length ≤ 4 * cs.length := by
  induction cs with
  | nil => exact Nat.le_refl 0
  | cons c cs ih =>
    have hc := c.utf8Size_le_four
    simp only [encodeChars_cons, List.length_append, String.length_utf8EncodeChar,
      List.length_cons]
    omega

/-- The code points a character can have. -/
theorem toNat_lt (c : Char) :
    c.toNat < 0xD800 ∨ 0xE000 ≤ c.toNat ∧ c.toNat < 0x110000 := by
  have h := c.valid
  simp only [UInt32.isValidChar, Nat.isValidChar] at h
  simp only [Char.toNat]
  omega

theorem ofNat_toNat (c : Char) {n : ℕ} (h : n = c.toNat) : Char.ofNat n = c :=
  h ▸ Char.ofNat_toNat c

/-- The chunk of a well-formed two-byte sequence. -/
theorem lossyHead_two {b c₁ : UInt8} {tail : List UInt8} (hb : 0xC2 ≤ b.toNat ∧ b.toNat ≤ 0xDF)
    (h₁ : isCont c₁) :
    lossyHead b (c₁ :: tail) = (Char.ofNat (b.toNat % 32 * 64 + c₁.toNat % 64), 1) := by
  have hn : ¬b.toNat < 0x80 := by omega
  simp only [lossyHead, List.getD_cons_zero, hn, hb, h₁, if_true, if_false, and_self]

/-- The chunk of a well-formed three-byte sequence. -/
theorem lossyHead_three {b c₁ c₂ : UInt8} {tail : List UInt8}
    (h₁ : isSecondOfThree b.toNat c₁.toNat) (h₂ : isCont c₂) :
    lossyHead b (c₁ :: c₂ :: tail) =
      (Char.ofNat (b.toNat % 16 * 4096 + c₁.toNat % 64 * 64 + c₂.toNat % 64), 2) := by
  have hb : 0xE0 ≤ b.toNat ∧ b.toNat ≤ 0xEF := by
    simp only [isSecondOfThree, Bool.or_eq_true, Bool.and_eq_true, decide_eq_true_eq] at h₁
    omega
  have hn : ¬b.toNat < 0x80 := by omega
  have hn₂ : ¬(0xC2 ≤ b.toNat ∧ b.toNat ≤ 0xDF) := by omega
  simp only [lossyHead, List.getD_cons_zero, List.getD_cons_succ, hn, hn₂, hb, h₁, h₂, if_true,
    if_false, and_self]

/-- The chunk of a well-formed four-byte sequence. -/
theorem lossyHead_four {b c₁ c₂ c₃ : UInt8} {tail : List UInt8}
    (h₁ : isSecondOfFour b.toNat c₁.toNat) (h₂ : isCont c₂) (h₃ : isCont c₃) :
    lossyHead b (c₁ :: c₂ :: c₃ :: tail) =
      (Char.ofNat (b.toNat % 8 * 262144 + c₁.toNat % 64 * 4096 + c₂.toNat % 64 * 64 +
        c₃.toNat % 64), 3) := by
  have hb : 0xF0 ≤ b.toNat ∧ b.toNat ≤ 0xF4 := by
    simp only [isSecondOfFour, Bool.or_eq_true, Bool.and_eq_true, decide_eq_true_eq] at h₁
    omega
  have hn : ¬b.toNat < 0x80 := by omega
  have hn₂ : ¬(0xC2 ≤ b.toNat ∧ b.toNat ≤ 0xDF) := by omega
  have hn₃ : ¬(0xE0 ≤ b.toNat ∧ b.toNat ≤ 0xEF) := by omega
  simp only [lossyHead, List.getD_cons_zero, List.getD_cons_succ, hn, hn₂, hn₃, hb, h₁, h₂, h₃,
    if_true, if_false, and_self]

/-- A byte made of a number below 256. -/
theorem toNat_ofNat {n : ℕ} (h : n < 256) : (UInt8.ofNat n).toNat = n := by
  simp only [UInt8.toNat_ofNat']
  omega

theorem isCont_of {b : UInt8} {n : ℕ} (h : b.toNat = n) (hn : 0x80 ≤ n ∧ n < 0xC0) :
    isCont b := by
  simpa only [isCont, h, Bool.and_eq_true, decide_eq_true_eq] using hn

/-- The chunk at the front of an encoded character is that character. -/
theorem lossyHead_encodeChar (c : Char) (tail : List UInt8) :
    ∃ b rest, String.utf8EncodeChar c ++ tail = b :: rest ∧
      (lossyHead b rest).1 = c ∧ rest.drop (lossyHead b rest).2 = tail := by
  have hc := toNat_lt c
  have hv : c.val.toNat = c.toNat := rfl
  generalize hn : c.toNat = n at hc
  simp only [String.utf8EncodeChar, hv, hn]
  by_cases h₁ : n ≤ 0x7f
  · have hlt : n < 0x80 := by omega
    refine ⟨UInt8.ofNat n, tail, by rw [if_pos h₁]; rfl, ?_, ?_⟩ <;>
      simp only [lossyHead, toNat_ofNat (show n < 256 by omega), hlt, if_true, List.drop_zero]
    exact ofNat_toNat c hn.symm
  rw [if_neg h₁]
  by_cases h₂ : n ≤ 0x7ff
  · rw [if_pos h₂]
    have hb := toNat_ofNat (show n / 64 % 0x20 + 0xc0 < 256 by omega)
    have hb₁ := toNat_ofNat (show n % 0x40 + 0x80 < 256 by omega)
    refine ⟨_, _, List.cons_append, ?_, ?_⟩ <;>
      rw [List.cons_append, List.nil_append, lossyHead_two (by omega) (isCont_of hb₁ (by omega))]
    · exact ofNat_toNat c (by omega)
    · rfl
  rw [if_neg h₂]
  by_cases h₃ : n ≤ 0xffff
  · rw [if_pos h₃]
    have hb := toNat_ofNat (show n / 4096 % 0x10 + 0xe0 < 256 by omega)
    have hb₁ := toNat_ofNat (show n / 64 % 0x40 + 0x80 < 256 by omega)
    have hb₂ := toNat_ofNat (show n % 0x40 + 0x80 < 256 by omega)
    have hs : isSecondOfThree (n / 4096 % 0x10 + 0xe0) (n / 64 % 0x40 + 0x80) := by
      simp only [isSecondOfThree, Bool.or_eq_true, Bool.and_eq_true, decide_eq_true_eq]
      omega
    refine ⟨_, _, List.cons_append, ?_, ?_⟩ <;>
      rw [List.cons_append, List.cons_append, List.nil_append,
        lossyHead_three (by rwa [hb, hb₁]) (isCont_of hb₂ (by omega))]
    · exact ofNat_toNat c (by omega)
    · rfl
  rw [if_neg h₃]
  have hb := toNat_ofNat (show n / 262144 % 0x08 + 0xf0 < 256 by omega)
  have hb₁ := toNat_ofNat (show n / 4096 % 0x40 + 0x80 < 256 by omega)
  have hb₂ := toNat_ofNat (show n / 64 % 0x40 + 0x80 < 256 by omega)
  have hb₃ := toNat_ofNat (show n % 0x40 + 0x80 < 256 by omega)
  have hs : isSecondOfFour (n / 262144 % 0x08 + 0xf0) (n / 4096 % 0x40 + 0x80) := by
    simp only [isSecondOfFour, Bool.or_eq_true, Bool.and_eq_true, decide_eq_true_eq]
    omega
  refine ⟨_, _, List.cons_append, ?_, ?_⟩ <;>
    rw [List.cons_append, List.cons_append, List.cons_append, List.nil_append,
      lossyHead_four (by rwa [hb, hb₁]) (isCont_of hb₂ (by omega)) (isCont_of hb₃ (by omega))]
  · exact ofNat_toNat c (by omega)
  · rfl

/-! ### Decoding what was encoded -/

theorem lossyLoop_encodeChar (fuel : ℕ) (c : Char) (tail : List UInt8) :
    lossyLoop (fuel + 1) (String.utf8EncodeChar c ++ tail) = c :: lossyLoop fuel tail := by
  obtain ⟨b, rest, heq, hc, ht⟩ := lossyHead_encodeChar c tail
  rw [heq, lossyLoop, hc, ht]

theorem lossyLoop_encodeChars :
    (cs : List Char) → (fuel : ℕ) → cs.length ≤ fuel → lossyLoop fuel (encodeChars cs) = cs
  | [], 0, _ | [], _ + 1, _ => rfl
  | c :: cs, fuel + 1, h => by
    rw [encodeChars_cons, lossyLoop_encodeChar,
      lossyLoop_encodeChars cs fuel (Nat.le_of_succ_le_succ h)]

/-- Decoding the bytes of a string gives the string back. -/
@[simp] theorem decodeLossy_encode (s : String) : decodeLossy (encode s) = s := by
  rw [decodeLossy, decodeLossyChars, encode,
    lossyLoop_encodeChars s.toList _ (length_le_encodeChars s.toList), String.ofList_toList]

@[simp] theorem decode?_encode (s : String) : decode? (encode s) = some s := by
  simp [decode?]

theorem encode_of_decode? {bs : List UInt8} {s : String} (h : decode? bs = some s) :
    encode s = bs := by
  simp only [decode?] at h
  split_ifs at h with hb
  rw [← Option.some.inj h, hb]

/-! ### How many characters a cut text gives -/

theorem length_lossyLoop_le :
    (fuel : ℕ) → (bs : List UInt8) → (lossyLoop fuel bs).length ≤ bs.length
  | 0, _ => Nat.zero_le _
  | _ + 1, [] => Nat.le_refl 0
  | fuel + 1, b :: rest => by
    have ih := length_lossyLoop_le fuel (rest.drop (lossyHead b rest).2)
    simp only [lossyLoop, List.length_cons, List.length_drop] at ih ⊢
    omega

theorem length_lossyLoop_take_le :
    (cs : List Char) → (fuel k : ℕ) →
      (lossyLoop fuel ((encodeChars cs).take k)).length ≤ cs.length + 2
  | [], fuel, k => by
    have h := length_lossyLoop_le fuel ((encodeChars []).take k)
    simp only [encodeChars_nil, List.take_nil, List.length_nil] at h ⊢
    omega
  | c :: cs, fuel, k => by
    by_cases hk : (String.utf8EncodeChar c).length ≤ k
    · match fuel with
      | 0 => simp [lossyLoop]
      | fuel + 1 =>
        have ih := length_lossyLoop_take_le cs fuel (k - (String.utf8EncodeChar c).length)
        rw [encodeChars_cons, List.take_append, List.take_of_length_le hk, lossyLoop_encodeChar,
          List.length_cons, List.length_cons]
        omega
    · -- the cut falls inside `c`: what is left of it is at most three bytes
      have h := length_lossyLoop_le fuel ((encodeChars (c :: cs)).take k)
      have h₄ := c.utf8Size_le_four
      rw [← String.length_utf8EncodeChar] at h₄
      rw [List.length_take] at h
      rw [List.length_cons]
      omega

/-- Cutting the bytes of a text leaves at most two characters more than the text has. -/
theorem length_decodeLossy_take_le (cs : List Char) (k : ℕ) :
    (decodeLossy ((encodeChars cs).take k)).toList.length ≤ cs.length + 2 := by
  rw [decodeLossy, String.toList_ofList]
  exact length_lossyLoop_take_le cs _ k

/-! ### Where an ASCII byte can stand -/

theorem toNat_charOfNat (n : ℕ) : (Char.ofNat n).toNat = n ∨ (Char.ofNat n).toNat = 0 := by
  by_cases h : n.isValidChar
  · exact .inl (congrArg Char.toNat (show Char.ofNat n = Char.ofNatAux n h from dif_pos h))
  · exact .inr (congrArg Char.toNat (show Char.ofNat n = '\x00' from dif_neg h))

/-- A chunk gives an ASCII character other than NUL only from that one byte. -/
theorem lossyHead_ascii {b : UInt8} {rest : List UInt8} {c : Char} (h : (lossyHead b rest).1 = c)
    (hc : 0 < c.toNat ∧ c.toNat < 0x80) : b.toNat = c.toNat := by
  subst h
  have hr : replacement.toNat = 0xFFFD := by decide
  -- every other chunk is the replacement character or a code point from `0x80` on
  simp only [lossyHead, isSecondOfThree, isSecondOfFour, Bool.or_eq_true, Bool.and_eq_true,
    decide_eq_true_eq] at hc ⊢
  split_ifs at hc ⊢ with h₁ h₂ h₃ h₄ h₅ h₆ h₇ h₈ h₉ <;> simp only [hr] at hc <;>
    first
    | omega
    | (rcases toNat_charOfNat _ with hn | hn <;> rw [hn] at hc ⊢ <;> omega)

theorem decodeLossyChars_head_ascii {bs : List UInt8} {c : Char} {cs : List Char}
    (h : decodeLossyChars bs = c :: cs) (hc : 0 < c.toNat ∧ c.toNat < 0x80) :
    ∃ b rest, bs = b :: rest ∧ b.toNat = c.toNat := by
  match bs with
  | [] => simp [decodeLossyChars, lossyLoop] at h
  | b :: rest =>
    simp only [decodeLossyChars, List.length_cons, lossyLoop, List.cons.injEq] at h
    exact ⟨b, rest, rfl, lossyHead_ascii h.1 hc⟩

/-- Every byte of an encoded character after its first is a continuation byte. -/
theorem isCont_of_mem_tail {c : Char} {b : UInt8} (h : b ∈ (String.utf8EncodeChar c).tail) :
    isCont b := by
  have hc (m : ℕ) : isCont (UInt8.ofNat (m % 0x40 + 0x80)) :=
    isCont_of (toNat_ofNat (by omega)) (by omega)
  simp only [String.utf8EncodeChar] at h
  split_ifs at h <;> simp only [List.tail_cons, List.mem_cons, List.not_mem_nil, or_false] at h <;>
    grind

/-- An ASCII byte among the bytes of a text starts one of its characters. -/
theorem split_at_ascii {b : UInt8} (hb : b.toNat < 0x80) {Q : List UInt8} :
    (cs : List Char) → (P : List UInt8) → encodeChars cs = P ++ b :: Q →
      ∃ A B, cs = A ++ B ∧ encodeChars A = P ∧ encodeChars B = b :: Q
  | [], P, h => by simp at h
  | c :: cs, [], h => ⟨[], c :: cs, rfl, rfl, h⟩
  | c :: cs, p :: P, h => by
    rw [encodeChars_cons] at h
    rcases List.append_eq_append_iff.mp h with ⟨P', hP, hcs⟩ | ⟨M, hM, hQ⟩
    · obtain ⟨A, B, rfl, hA, hB⟩ := split_at_ascii hb cs P' hcs
      exact ⟨c :: A, B, rfl, by rw [encodeChars_cons, hA, hP], hB⟩
    · -- `b` cannot be a later byte of `c`
      match M with
      | [] => exact ⟨[c], cs, rfl, by simpa using hM, by simpa using hQ.symm⟩
      | m :: M =>
        obtain ⟨rfl, -⟩ := List.cons.inj hQ
        have hmem : b ∈ (String.utf8EncodeChar c).tail := by
          rw [hM, List.cons_append, List.tail_cons]
          exact List.mem_append_right P (List.mem_cons_self ..)
        have := isCont_of_mem_tail hmem
        simp only [isCont, Bool.and_eq_true, decide_eq_true_eq] at this
        omega

end Utf8

import Mathlib.Data.List.Basic

/-!
# Hexadecimal text

Bytes as pairs of digits, written in lower case and read in either, and the hyphenated text of a
UUID.

## Main definitions

* `Hex.encode`, `Hex.decode`.
* `Uuid.format`, `Uuid.parse`.

## Main results

* `Hex.decode_encode`, `Hex.encode_of_decode`: the two are inverse on text in lower case.
* `Uuid.parse_format`.
-/

namespace Hex

def digit (n : ℕ) : Char := if n < 10 then Char.ofNat (48 + n) else Char.ofNat (87 + n)

/-- The value of a digit, in either case. -/
def value (c : Char) : Option ℕ :=
  if '0' ≤ c ∧ c ≤ '9' then some (c.toNat - 48)
  else if 'a' ≤ c ∧ c ≤ 'f' then some (c.toNat - 87)
  else if 'A' ≤ c ∧ c ≤ 'F' then some (c.toNat - 55)
  else none

def byte (b : UInt8) : List Char := [digit (b.toNat / 16), digit (b.toNat % 16)]

def encode (bs : List UInt8) : List Char := bs.flatMap byte

def decode : List Char → Option (List UInt8)
  | [] => some []
  | [_] => none
  | a :: b :: cs => do
    let high ← value a
    let low ← value b
    return UInt8.ofNat (16 * high + low) :: (← decode cs)

theorem value_digit : ∀ n < 16, value (digit n) = some n := by decide

theorem digit_ne_hyphen : ∀ n < 16, digit n ≠ '-' := by decide

theorem decode_byte_append (b : UInt8) (cs : List Char) :
    decode (byte b ++ cs) = (decode cs).map (b :: ·) := by
  have hb : b.toNat < 256 := b.toNat_lt
  have hbyte : UInt8.ofNat (16 * (b.toNat / 16) + b.toNat % 16) = b := by
    rw [Nat.div_add_mod]
    exact UInt8.ofNat_toNat
  show decode (digit (b.toNat / 16) :: digit (b.toNat % 16) :: cs) = _
  rw [decode, value_digit _ (by omega), value_digit _ (by omega)]
  cases decode cs with
  | none => rfl
  | some rest => exact congrArg (fun x => some (x :: rest)) hbyte

/-- What was encoded is decoded to the same bytes. -/
@[simp] theorem decode_encode (bs : List UInt8) : decode (encode bs) = some bs := by
  induction bs with
  | nil => rfl
  | cons b bs ih =>
    have hcons : encode (b :: bs) = byte b ++ encode bs := List.flatMap_cons
    rw [hcons, decode_byte_append, ih]
    rfl

/-- A digit in lower case is the digit of its value. -/
theorem digit_of_value {c : Char} {n : ℕ} (h : value c = some n) (hc : ¬('A' ≤ c ∧ c ≤ 'F')) :
    n < 16 ∧ digit n = c := by
  have hchar (k : ℕ) (hk : k = c.toNat) : Char.ofNat k = c := by
    rw [hk]
    exact Char.ofNat_toNat c
  have hle (a b : Char) (hab : a ≤ b) : a.toNat ≤ b.toNat := hab
  unfold value at h
  unfold digit
  split at h
  · next hd =>
    have h₁ : 48 ≤ c.toNat := hle _ _ hd.1
    have h₂ : c.toNat ≤ 57 := hle _ _ hd.2
    obtain rfl := Option.some.inj h
    rw [if_pos (by omega)]
    exact ⟨by omega, hchar _ (by omega)⟩
  · split at h
    · next hd =>
      have h₁ : 97 ≤ c.toNat := hle _ _ hd.1
      have h₂ : c.toNat ≤ 102 := hle _ _ hd.2
      obtain rfl := Option.some.inj h
      rw [if_neg (by omega)]
      exact ⟨by omega, hchar _ (by omega)⟩
    · cases h

/-- Text in lower case is what its bytes are encoded as. -/
theorem encode_of_decode {cs : List Char} {bs : List UInt8} (h : decode cs = some bs)
    (hcs : ∀ c ∈ cs, ¬('A' ≤ c ∧ c ≤ 'F')) : encode bs = cs := by
  induction cs using decode.induct generalizing bs with
  | case1 =>
    obtain rfl := Option.some.inj h
    rfl
  | case2 => cases h
  | case3 a b cs ih =>
    rw [decode] at h
    obtain ⟨high, hhigh, h⟩ := Option.bind_eq_some_iff.mp h
    obtain ⟨low, hlow, h⟩ := Option.bind_eq_some_iff.mp h
    obtain ⟨rest, hrest, h⟩ := Option.bind_eq_some_iff.mp h
    obtain rfl := Option.some.inj h
    obtain ⟨hh, ha⟩ := digit_of_value hhigh (hcs a (by simp))
    obtain ⟨hl, hb⟩ := digit_of_value hlow (hcs b (by simp))
    have hcons : encode (UInt8.ofNat (16 * high + low) :: rest) =
        byte (UInt8.ofNat (16 * high + low)) ++ encode rest := List.flatMap_cons
    have hnat : (UInt8.ofNat (16 * high + low)).toNat = 16 * high + low := by
      rw [UInt8.toNat_ofNat']
      omega
    rw [hcons, ih hrest fun c hc => hcs c (by simp [hc]), byte, hnat,
      show (16 * high + low) / 16 = high by omega, show (16 * high + low) % 16 = low by omega,
      ha, hb]
    rfl

end Hex

namespace Uuid

/-- Sixteen bytes as a UUID. -/
def format (bs : List UInt8) : String :=
  let part (start len : ℕ) : List Char := Hex.encode ((bs.drop start).take len)
  String.ofList (part 0 4 ++ '-' :: part 4 2 ++ '-' :: part 6 2 ++ '-' :: part 8 2 ++
    '-' :: part 10 6)

/-- Read a UUID; hyphens are skipped. -/
def parse (s : String) : Option { bs : List UInt8 // bs.length = 16 } := do
  let bs ← Hex.decode (s.toList.filter fun c => c ≠ '-')
  if h : bs.length = 16 then return ⟨bs, h⟩ else none

/-- The characters of a UUID. -/
theorem mem_format {bs : List UInt8} {c : Char} (h : c ∈ (format bs).toList) :
    '0' ≤ c ∧ c ≤ '9' ∨ 'a' ≤ c ∧ c ≤ 'f' ∨ c = '-' := by
  have hdigit : ∀ n < 16, '0' ≤ Hex.digit n ∧ Hex.digit n ≤ '9' ∨
      'a' ≤ Hex.digit n ∧ Hex.digit n ≤ 'f' ∨ Hex.digit n = '-' := by decide
  have hencode (as : List UInt8) (hc : c ∈ Hex.encode as) :
      '0' ≤ c ∧ c ≤ '9' ∨ 'a' ≤ c ∧ c ≤ 'f' ∨ c = '-' := by
    obtain ⟨b, -, hb⟩ := List.mem_flatMap.mp hc
    have hlt : b.toNat < 256 := b.toNat_lt
    obtain rfl | rfl : c = Hex.digit (b.toNat / 16) ∨ c = Hex.digit (b.toNat % 16) := by
      simpa [Hex.byte] using hb
    · exact hdigit _ (by omega)
    · exact hdigit _ (by omega)
  unfold format at h
  simp only [String.toList_ofList, List.append_assoc, List.cons_append, List.mem_append,
    List.mem_cons] at h
  rcases h with h | h | h | h | h | h | h | h | h
  · exact hencode _ h
  · exact .inr (.inr h)
  · exact hencode _ h
  · exact .inr (.inr h)
  · exact hencode _ h
  · exact .inr (.inr h)
  · exact hencode _ h
  · exact .inr (.inr h)
  · exact hencode _ h

theorem filter_encode (bs : List UInt8) :
    (Hex.encode bs).filter (fun c => c ≠ '-') = Hex.encode bs := by
  rw [List.filter_eq_self]
  intro c hc
  obtain ⟨b, -, hb⟩ := List.mem_flatMap.mp hc
  have hlt : b.toNat < 256 := b.toNat_lt
  obtain rfl | rfl : c = Hex.digit (b.toNat / 16) ∨ c = Hex.digit (b.toNat % 16) := by
    simpa [Hex.byte] using hb
  · simpa using Hex.digit_ne_hyphen _ (by omega)
  · simpa using Hex.digit_ne_hyphen _ (by omega)

/-- A formatted UUID is read back. -/
theorem parse_format {bs : List UInt8} (h : bs.length = 16) : parse (format bs) = some ⟨bs, h⟩ := by
  have happend (as bs : List UInt8) : Hex.encode as ++ Hex.encode bs = Hex.encode (as ++ bs) :=
    List.flatMap_append.symm
  have hparts : (bs.drop 0).take 4 ++ ((bs.drop 4).take 2 ++ ((bs.drop 6).take 2 ++
      ((bs.drop 8).take 2 ++ (bs.drop 10).take 6))) = bs := by
    match bs, h with
    | [_, _, _, _, _, _, _, _, _, _, _, _, _, _, _, _], _ => rfl
  have hfilter : (format bs).toList.filter (fun c => c ≠ '-') = Hex.encode bs := by
    unfold format
    dsimp only
    rw [String.toList_ofList]
    simp only [List.filter_append, List.append_assoc, List.cons_append, List.filter_cons,
      filter_encode, ne_eq, not_true_eq_false, decide_false, Bool.false_eq_true, if_false, happend,
      hparts]
  unfold parse
  rw [hfilter, Hex.decode_encode]
  simp [h]

end Uuid

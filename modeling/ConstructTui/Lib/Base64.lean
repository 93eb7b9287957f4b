import ConstructTui.Lib.Text

/-!
# Base64

Bytes as digits of six bits, in a dialect: an alphabet, and whether the text is padded to a multiple
of four. Reading is strict: bits that stand for nothing must be zero, and the padding must be the
one that writing gives.

## Main definitions

* `Base64.Dialect`, `Base64.standard`, `Base64.urlSafe`.
* `Base64.encode`, `Base64.decode`.

## Main results

* `Base64.decode_encode`: what was encoded is decoded to the same bytes.
* `Base64.encode_of_decode`: what can be decoded is what its bytes are encoded as.
* `Base64.mem_encode`: the characters of an encoded text.
-/

namespace Base64

/-- An alphabet of sixty-four digits, none of them the padding. -/
structure Dialect where
  digits : List Char
  padded : Bool
  length_digits : digits.length = 64
  idxOf_digits : ∀ i < 64, digits.idxOf? (digits.getD i 'A') = some i
  padding_not_mem : '=' ∉ digits

/-- The letters and the digits that both dialects share: `A` to `Z`, `a` to `z`, `0` to `9`. -/
def letters : List Char :=
  (List.range' 65 26 ++ List.range' 97 26 ++ List.range' 48 10).map Char.ofNat

def standard : Dialect where
  digits := letters ++ ['+', '/']
  padded := true
  length_digits := by decide
  idxOf_digits := by decide +kernel
  padding_not_mem := by decide

def urlSafe : Dialect where
  digits := letters ++ ['-', '_']
  padded := false
  length_digits := by decide
  idxOf_digits := by decide +kernel
  padding_not_mem := by decide

/-! ### Sixty-four at a time -/

/-- The bytes as numbers of six bits, the last one filled up with zeros. -/
def sextets : List UInt8 → List ℕ
  | [] => []
  | [a] => [a.toNat / 4, a.toNat % 4 * 16]
  | [a, b] => [a.toNat / 4, a.toNat % 4 * 16 + b.toNat / 16, b.toNat % 16 * 4]
  | a :: b :: c :: bs => a.toNat / 4 :: (a.toNat % 4 * 16 + b.toNat / 16) ::
      (b.toNat % 16 * 4 + c.toNat / 64) :: c.toNat % 64 :: sextets bs

def ofSextets : List ℕ → Option (List UInt8)
  | [] => some []
  | [_] => none
  | [w, x] => if x % 16 = 0 then some [UInt8.ofNat (w * 4 + x / 16)] else none
  | [w, x, y] =>
    if y % 4 = 0 then some [UInt8.ofNat (w * 4 + x / 16), UInt8.ofNat (x % 16 * 16 + y / 4)]
    else none
  | w :: x :: y :: z :: ns => (ofSextets ns).map fun bs =>
      UInt8.ofNat (w * 4 + x / 16) :: UInt8.ofNat (x % 16 * 16 + y / 4) ::
        UInt8.ofNat (y % 4 * 64 + z) :: bs

theorem ofNat_eq {b : UInt8} {n : ℕ} (h : n = b.toNat) : UInt8.ofNat n = b := by
  rw [h]
  exact UInt8.ofNat_toNat

theorem ofSextets_sextets (bs : List UInt8) : ofSextets (sextets bs) = some bs := by
  induction bs using sextets.induct with
  | case1 => rfl
  | case2 a =>
    have ha : a.toNat < 256 := a.toNat_lt
    rw [sextets, ofSextets, if_pos (by omega), ofNat_eq (b := a) (by omega)]
  | case3 a b =>
    have ha : a.toNat < 256 := a.toNat_lt
    have hb : b.toNat < 256 := b.toNat_lt
    rw [sextets, ofSextets, if_pos (by omega), ofNat_eq (b := a) (by omega),
      ofNat_eq (b := b) (by omega)]
  | case4 a b c bs ih =>
    have ha : a.toNat < 256 := a.toNat_lt
    have hb : b.toNat < 256 := b.toNat_lt
    have hc : c.toNat < 256 := c.toNat_lt
    rw [sextets, ofSextets, ih, ofNat_eq (b := a) (by omega), ofNat_eq (b := b) (by omega),
      ofNat_eq (b := c) (by omega)]
    rfl

theorem sextets_lt (bs : List UInt8) : ∀ n ∈ sextets bs, n < 64 := by
  induction bs using sextets.induct with
  | case1 => simp [sextets]
  | case2 a =>
    have ha : a.toNat < 256 := a.toNat_lt
    simp only [sextets, List.forall_mem_cons]
    exact ⟨by omega, by omega, by simp⟩
  | case3 a b =>
    have ha : a.toNat < 256 := a.toNat_lt
    have hb : b.toNat < 256 := b.toNat_lt
    simp only [sextets, List.forall_mem_cons]
    exact ⟨by omega, by omega, by omega, by simp⟩
  | case4 a b c bs ih =>
    have ha : a.toNat < 256 := a.toNat_lt
    have hb : b.toNat < 256 := b.toNat_lt
    have hc : c.toNat < 256 := c.toNat_lt
    simp only [sextets, List.forall_mem_cons]
    exact ⟨by omega, by omega, by omega, by omega, ih⟩

/-! ### Texts -/

variable (d : Dialect)

def Dialect.digit (n : ℕ) : Char := d.digits.getD n 'A'

def Dialect.value (c : Char) : Option ℕ := d.digits.idxOf? c

/-- How many padding characters follow a number of digits. -/
def Dialect.padding (n : ℕ) : ℕ := if d.padded then (4 - n % 4) % 4 else 0

def encode (bs : List UInt8) : List Char :=
  (sextets bs).map d.digit ++ List.replicate (d.padding (sextets bs).length) '='

def decode (cs : List Char) : Option (List UInt8) :=
  let body := trimEndChar '=' cs
  if cs.length = body.length + d.padding body.length then
    (body.mapM d.value).bind ofSextets
  else none

variable {d}

theorem Dialect.value_digit {n : ℕ} (h : n < 64) : d.value (d.digit n) = some n :=
  d.idxOf_digits n h

theorem Dialect.digit_mem {n : ℕ} (h : n < 64) : d.digit n ∈ d.digits := by
  have hn : n < d.digits.length := d.length_digits ▸ h
  have hget : d.digit n = d.digits[n] := by
    unfold digit
    rw [List.getD_eq_getElem?_getD, List.getElem?_eq_getElem hn]
    rfl
  rw [hget]
  exact List.getElem_mem hn

theorem mapM_value {ns : List ℕ} (h : ∀ n ∈ ns, n < 64) :
    (ns.map d.digit).mapM d.value = some ns := by
  induction ns with
  | nil => rfl
  | cons n ns ih =>
    rw [List.map_cons, List.mapM_cons, d.value_digit (h n List.mem_cons_self),
      ih fun m hm => h m (List.mem_cons_of_mem _ hm)]
    rfl

theorem digits_ne_padding {ns : List ℕ} (h : ∀ n ∈ ns, n < 64) :
    ∀ c ∈ ns.map d.digit, c ≠ '=' := by
  rintro _ hc rfl
  obtain ⟨n, hn, heq⟩ := List.mem_map.mp hc
  exact d.padding_not_mem (heq ▸ d.digit_mem (h n hn))

theorem trimEndChar_encode (bs : List UInt8) :
    trimEndChar '=' (encode d bs) = (sextets bs).map d.digit := by
  have hpad (n : ℕ) : ∀ c ∈ (List.replicate n '=').reverse, decide (c = '=') = true := by simp
  have hhead : ∀ c ∈ ((sextets bs).map d.digit).reverse.head?, decide (c = '=') = false := by
    intro c hc
    have hmem := List.mem_of_mem_head? hc
    simpa using digits_ne_padding (sextets_lt bs) c (List.mem_reverse.mp hmem)
  unfold trimEndChar encode
  rw [List.reverse_append, dropWhile_append_of_forall (hpad _), dropWhile_of_head hhead,
    List.reverse_reverse]

/-- What was encoded is decoded to the same bytes. -/
@[simp] theorem decode_encode (bs : List UInt8) : decode d (encode d bs) = some bs := by
  have hlen : (encode d bs).length =
      ((sextets bs).map d.digit).length + d.padding ((sextets bs).map d.digit).length := by
    simp [encode]
  unfold decode
  dsimp only
  rw [trimEndChar_encode, if_pos hlen, mapM_value (sextets_lt bs)]
  exact ofSextets_sextets bs

/-- The same of text. -/
theorem decode_ofList_encode (d : Dialect) (bs : List UInt8) :
    decode d (String.ofList (encode d bs)).toList = some bs := by
  rw [String.toList_ofList, decode_encode]

/-- The characters of a text in a dialect that is not padded. -/
theorem mem_encode {bs : List UInt8} (hd : d.padded = false) : ∀ c ∈ encode d bs, c ∈ d.digits := by
  intro c hc
  unfold encode Dialect.padding at hc
  rw [hd] at hc
  obtain ⟨n, hn, rfl⟩ := List.mem_map.mp (by simpa using hc)
  exact d.digit_mem (sextets_lt bs n hn)

/-- The value of a digit belongs to it. -/
theorem Dialect.digit_of_value {c : Char} {n : ℕ} (h : d.value c = some n) :
    n < 64 ∧ d.digit n = c := by
  obtain ⟨hn, hc, -⟩ := List.idxOf?_eq_some_iff.mp h
  refine ⟨d.length_digits ▸ hn, ?_⟩
  unfold digit
  rw [List.getD_eq_getElem?_getD, List.getElem?_eq_getElem hn]
  exact hc

theorem mapM_value_eq_some {cs : List Char} {ns : List ℕ} (h : cs.mapM d.value = some ns) :
    (∀ n ∈ ns, n < 64) ∧ ns.map d.digit = cs := by
  induction cs generalizing ns with
  | nil =>
    obtain rfl := Option.some.inj h
    exact ⟨List.forall_mem_nil _, rfl⟩
  | cons c cs ih =>
    rw [List.mapM_cons] at h
    obtain ⟨n, hn, h⟩ := Option.bind_eq_some_iff.mp h
    obtain ⟨ns', hns, h⟩ := Option.bind_eq_some_iff.mp h
    obtain rfl := Option.some.inj h
    obtain ⟨hlt, hdigit⟩ := d.digit_of_value hn
    obtain ⟨hall, hmap⟩ := ih hns
    exact ⟨List.forall_mem_cons.mpr ⟨hlt, hall⟩, by rw [List.map_cons, hdigit, hmap]⟩

/-- The bits of the bytes are those that were read. -/
theorem sextets_of_ofSextets {ns : List ℕ} {bs : List UInt8} (hns : ∀ n ∈ ns, n < 64)
    (h : ofSextets ns = some bs) : sextets bs = ns := by
  have hnat {n : ℕ} (hn : n < 256) : (UInt8.ofNat n).toNat = n := by
    rw [UInt8.toNat_ofNat', Nat.mod_eq_of_lt hn]
  induction ns using ofSextets.induct generalizing bs with
  | case1 =>
    obtain rfl := Option.some.inj h
    rfl
  | case2 w => cases h
  | case3 w x hx =>
    simp only [List.forall_mem_cons] at hns
    rw [ofSextets, if_pos hx] at h
    obtain rfl := Option.some.inj h
    rw [sextets, hnat (by omega)]
    simp only [List.cons.injEq, and_true]
    omega
  | case4 w x hx =>
    rw [ofSextets, if_neg hx] at h
    cases h
  | case5 w x y hy =>
    simp only [List.forall_mem_cons] at hns
    rw [ofSextets, if_pos hy] at h
    obtain rfl := Option.some.inj h
    rw [sextets, hnat (by omega), hnat (by omega)]
    simp only [List.cons.injEq, and_true]
    omega
  | case6 w x y hy =>
    rw [ofSextets, if_neg hy] at h
    cases h
  | case7 w x y z ns ih =>
    simp only [List.forall_mem_cons] at hns
    rw [ofSextets] at h
    obtain ⟨rest, hrest, rfl⟩ := Option.map_eq_some_iff.mp h
    rw [sextets, ih hns.2.2.2.2 hrest, hnat (by omega), hnat (by omega), hnat (by omega)]
    simp only [List.cons.injEq, and_true]
    omega

theorem trimEndChar_append_replicate (c : Char) (cs : List Char) :
    cs = trimEndChar c cs ++ List.replicate (cs.length - (trimEndChar c cs).length) c := by
  have hsplit := List.takeWhile_append_dropWhile (p := fun a => decide (a = c)) (l := cs.reverse)
  have hcs : cs = trimEndChar c cs ++ (cs.reverse.takeWhile fun a => decide (a = c)).reverse := by
    unfold trimEndChar
    rw [← List.reverse_append, hsplit, List.reverse_reverse]
  have hlen := congrArg List.length hcs
  rw [List.length_append] at hlen
  have hall : ∀ a ∈ (cs.reverse.takeWhile fun a => decide (a = c)).reverse, a = c := by
    intro a ha
    simpa using List.mem_takeWhile_imp (List.mem_reverse.mp ha)
  rw [show cs.length - (trimEndChar c cs).length =
    ((cs.reverse.takeWhile fun a => decide (a = c)).reverse).length by omega,
    ← List.eq_replicate_of_mem hall]
  exact hcs

/-- A text that can be read is the one that its bytes are encoded as. -/
theorem encode_of_decode {cs : List Char} {bs : List UInt8} (h : decode d cs = some bs) :
    encode d bs = cs := by
  unfold decode at h
  rw [Option.ite_none_right_eq_some] at h
  obtain ⟨hlen, h⟩ := h
  obtain ⟨ns, hns, hbs⟩ := Option.bind_eq_some_iff.mp h
  obtain ⟨hlt, hmap⟩ := mapM_value_eq_some hns
  have hbody : ns.length = (trimEndChar '=' cs).length := by rw [← hmap, List.length_map]
  have hpadding : cs.length - (trimEndChar '=' cs).length = d.padding ns.length := by
    rw [hbody]
    omega
  unfold encode
  rw [sextets_of_ofSextets hlt hbs, hmap, ← hpadding]
  exact (trimEndChar_append_replicate '=' cs).symm

end Base64

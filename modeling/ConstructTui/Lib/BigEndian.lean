import Mathlib.Algebra.Order.Ring.Int
import Mathlib.Data.List.Basic
import Mathlib.Data.List.Induction
import Mathlib.Tactic.Ring

/-!
# Big-endian numbers

Numbers as bytes, the most significant byte first.

## Main definitions

* `BigEndian.be16`, `BigEndian.be32`, `BigEndian.be64`, `BigEndian.ofBe`.

## Main results

* `BigEndian.ofBe_append`: numbers are read piece by piece.
* `BigEndian.ofBe_be32`, `BigEndian.ofBe_be64`: a number that fits is read back.
* `BigEndian.be32_ofBe`: four bytes come back.
-/

namespace BigEndian

def be16 (n : ℕ) : List UInt8 := [UInt8.ofNat (n / 256 % 256), UInt8.ofNat (n % 256)]

/-- The four bytes of `n as u32`. -/
def be32 (n : ℕ) : List UInt8 :=
  [UInt8.ofNat (n / 16777216 % 256), UInt8.ofNat (n / 65536 % 256), UInt8.ofNat (n / 256 % 256),
    UInt8.ofNat (n % 256)]

/-- The eight bytes of `n as u64`. -/
def be64 (n : ℕ) : List UInt8 := be32 (n / 4294967296) ++ be32 n

def ofBe : List UInt8 → ℕ := List.foldl (fun acc b => 256 * acc + b.toNat) 0

theorem ofBe_append (xs ys : List UInt8) :
    ofBe (xs ++ ys) = ofBe xs * 256 ^ ys.length + ofBe ys := by
  have hconcat (zs : List UInt8) (b : UInt8) : ofBe (zs ++ [b]) = 256 * ofBe zs + b.toNat := by
    simp [ofBe]
  induction ys using List.reverseRecOn with
  | nil => simp [ofBe]
  | append_singleton ys b ih =>
    rw [← List.append_assoc, hconcat, hconcat, ih, List.length_append, List.length_singleton,
      pow_succ]
    ring

/-- Four bytes hold a number up to a multiple of their range. -/
theorem ofBe_be32_mod (n : ℕ) : ofBe (be32 n) = n % 2 ^ 32 := by
  simp only [ofBe, be32, List.foldl_cons, List.foldl_nil, UInt8.toNat_ofNat']
  omega

theorem ofBe_be32 {n : ℕ} (h : n < 2 ^ 32) : ofBe (be32 n) = n := by
  rw [ofBe_be32_mod, Nat.mod_eq_of_lt h]

theorem ofBe_be64 {n : ℕ} (h : n < 2 ^ 64) : ofBe (be64 n) = n := by
  have hlength : (be32 n).length = 4 := rfl
  rw [be64, ofBe_append, ofBe_be32_mod, ofBe_be32_mod, hlength]
  omega

theorem ofBe_lt (a b c d : UInt8) : ofBe [a, b, c, d] < 2 ^ 32 := by
  have ha := a.toNat_lt
  have hb := b.toNat_lt
  have hc := c.toNat_lt
  have hd := d.toNat_lt
  simp only [ofBe, List.foldl_cons, List.foldl_nil]
  omega

/-- Four bytes are the bytes of the number they are read as. -/
theorem be32_ofBe (a b c d : UInt8) : be32 (ofBe [a, b, c, d]) = [a, b, c, d] := by
  have ha := a.toNat_lt
  have hb := b.toNat_lt
  have hc := c.toNat_lt
  have hd := d.toNat_lt
  have hbyte {n : ℕ} {x : UInt8} (h : n % 256 = x.toNat) : UInt8.ofNat (n % 256) = x := by
    rw [h]
    exact UInt8.ofNat_toNat
  simp only [ofBe, be32, List.foldl_cons, List.foldl_nil, List.cons.injEq, and_true]
  refine ⟨hbyte ?_, hbyte ?_, hbyte ?_, hbyte ?_⟩ <;> omega

@[simp] theorem length_be32 (n : ℕ) : (be32 n).length = 4 := rfl

@[simp] theorem length_be64 (n : ℕ) : (be64 n).length = 8 := rfl

end BigEndian

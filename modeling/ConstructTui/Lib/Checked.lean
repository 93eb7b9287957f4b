import ConstructTui.Lib.Text

/-!
# Computations that can panic

A slice or an index panics when its bounds do not lie in the data, or for a text when they do not
lie between two characters; an addition of signed 64-bit numbers panics when the sum does not fit.

## Main definitions

* `Panic`, `Checked`: a result, or the reason why there is none.
* `Checked.slice`, `Checked.sliceFrom`, `Checked.index`: parts of a list.
* `Checked.splitText`: the two slices of a text at an offset in bytes.
* `Checked.findText`: the offset of the first occurrence of a pattern.
* `Checked.addI64`, `Checked.wrapAddI64`: addition of signed 64-bit numbers, checked or wrapping.

## Main results

* `Checked.splitText_append`: an offset between two characters is fine.
* `Checked.findText_cases`, `Checked.splitText_findText`: so is the offset of an occurrence.
* `Checked.addI64_of_fits`: when a sum fits.
* `Checked.wrapAddI64_lt_iff`: when a sum that wraps compares as the sum does.
-/

/-- Why a computation panics. -/
inductive Panic
  | slice
  | overflow
  deriving DecidableEq, Repr

/-- A computation that can panic. -/
abbrev Checked := Except Panic

namespace Checked

variable {α β : Type}

/-- A sequence succeeds when both parts do. -/
theorem bind_eq_ok {E : Type} {x : Except E α} {f : α → Except E β} {b : β} :
    (x >>= f) = .ok b ↔ ∃ a, x = .ok a ∧ f a = .ok b := by
  cases x with
  | error e => exact iff_of_false (fun h => by cases h) fun ⟨a, h, _⟩ => by cases h
  | ok a => exact ⟨fun h => ⟨a, rfl, h⟩, fun ⟨a', ha, h⟩ => Except.ok.inj ha ▸ h⟩

/-- A computation under a condition succeeds when the condition holds. -/
theorem ite_eq_ok {E : Type} {c : Prop} [Decidable c] {a b : α} {e : E} :
    (if c then .ok a else .error e : Except E α) = .ok b ↔ c ∧ a = b := by
  by_cases hc : c
  · rw [if_pos hc]
    exact ⟨fun h => ⟨hc, Except.ok.inj h⟩, fun h => congrArg Except.ok h.2⟩
  · rw [if_neg hc]
    exact iff_of_false (fun h => by cases h) fun h => hc h.1

/-- `&data[lo..hi]`. -/
def slice (data : List α) (lo hi : ℕ) : Checked (List α) :=
  if lo ≤ hi ∧ hi ≤ data.length then .ok ((data.drop lo).take (hi - lo)) else .error .slice

theorem slice_of_le {data : List α} {i n : ℕ} (h : i + n ≤ data.length) :
    slice data i (i + n) = .ok ((data.drop i).take n) := by
  unfold slice
  rw [if_pos ⟨Nat.le_add_right i n, h⟩, Nat.add_sub_cancel_left]

/-- `&data[lo..]`. -/
def sliceFrom (data : List α) (lo : ℕ) : Checked (List α) := slice data lo data.length

theorem sliceFrom_of_le {data : List α} {lo : ℕ} (h : lo ≤ data.length) :
    sliceFrom data lo = .ok (data.drop lo) := by
  unfold sliceFrom slice
  rw [if_pos ⟨h, le_refl _⟩, List.take_of_length_le (List.length_drop.le)]

/-- `data[i]`. -/
def index (data : List α) (i : ℕ) : Checked α :=
  match data[i]? with
  | some a => .ok a
  | none => .error .slice

theorem index_of_lt {data : List α} {i : ℕ} (h : i < data.length) (d : α) :
    index data i = .ok (data.getD i d) := by
  unfold index
  rw [List.getD_eq_getElem?_getD, List.getElem?_eq_getElem h]
  rfl

/-- `(&text[..n], &text[n..])`, where `n` counts bytes. -/
def splitText : List Char → ℕ → Checked (List Char × List Char)
  | cs, 0 => .ok ([], cs)
  | [], _ + 1 => .error .slice
  | c :: cs, n + 1 =>
    if c.utf8Size ≤ n + 1 then (splitText cs (n + 1 - c.utf8Size)).map fun p => (c :: p.1, p.2)
    else .error .slice

/-- The length of a text in bytes. -/
def byteLength (cs : List Char) : ℕ := (cs.map Char.utf8Size).sum

@[simp] theorem byteLength_nil : byteLength [] = 0 := rfl

@[simp] theorem byteLength_cons (c : Char) (cs : List Char) :
    byteLength (c :: cs) = c.utf8Size + byteLength cs := by simp [byteLength]

@[simp] theorem byteLength_append (as bs : List Char) :
    byteLength (as ++ bs) = byteLength as + byteLength bs := by simp [byteLength]

/-- A text can be sliced behind a part of it. -/
theorem splitText_append (as bs : List Char) :
    splitText (as ++ bs) (byteLength as) = .ok (as, bs) := by
  induction as with
  | nil =>
    rw [byteLength_nil, List.nil_append]
    cases bs <;> rfl
  | cons a as ih =>
    have hpos := a.utf8Size_pos
    obtain ⟨n, hn⟩ : ∃ n, a.utf8Size + byteLength as = n + 1 :=
      ⟨a.utf8Size + byteLength as - 1, by omega⟩
    rw [byteLength_cons, hn, List.cons_append, splitText, if_pos (by omega),
      show n + 1 - a.utf8Size = byteLength as by omega, ih]
    rfl

/-- What a text is sliced into makes it up. -/
theorem splitText_eq_ok {cs as bs : List Char} {n : ℕ} :
    splitText cs n = .ok (as, bs) ↔ cs = as ++ bs ∧ byteLength as = n := by
  constructor
  · intro h
    induction cs generalizing n as with
    | nil =>
      cases n with
      | zero =>
        obtain ⟨rfl, rfl⟩ := Prod.mk.inj (Except.ok.inj h)
        exact ⟨rfl, rfl⟩
      | succ n => cases h
    | cons c cs ih =>
      cases n with
      | zero =>
        obtain ⟨rfl, rfl⟩ := Prod.mk.inj (Except.ok.inj h)
        exact ⟨rfl, rfl⟩
      | succ n =>
        rw [splitText] at h
        by_cases hc : c.utf8Size ≤ n + 1
        · rw [if_pos hc] at h
          cases hrest : splitText cs (n + 1 - c.utf8Size) with
          | error e => rw [hrest] at h; cases h
          | ok p =>
            rw [hrest] at h
            obtain ⟨rfl, rfl⟩ := Prod.mk.inj (Except.ok.inj h)
            obtain ⟨hcs, hlen⟩ := ih hrest
            refine ⟨congrArg (c :: ·) hcs, ?_⟩
            rw [byteLength_cons]
            omega
        · rw [if_neg hc] at h
          cases h
  · rintro ⟨rfl, rfl⟩
    exact splitText_append as bs

/-- `str::find`: the offset in bytes of the first occurrence of a pattern. -/
def findText (pat : List Char) : List Char → Option ℕ
  | [] => if pat.isEmpty then some 0 else none
  | c :: cs => if pat.isPrefixOf (c :: cs) then some 0 else (findText pat cs).map (c.utf8Size + ·)

/-- An occurrence lies between two characters, and what follows it is found behind it. -/
theorem findText_cases (pat cs : List Char) : (findText pat cs = none ∧ afterText pat cs = none) ∨
    ∃ before rest, cs = before ++ (pat ++ rest) ∧ findText pat cs = some (byteLength before) ∧
      afterText pat cs = some rest := by
  induction cs with
  | nil =>
    cases pat with
    | nil => exact .inr ⟨[], [], rfl, rfl, rfl⟩
    | cons p pat => exact .inl ⟨rfl, rfl⟩
  | cons c cs ih =>
    rw [findText, afterText]
    by_cases hpre : pat.isPrefixOf (c :: cs)
    · rw [if_pos hpre, if_pos hpre]
      obtain ⟨rest, hrest⟩ := List.isPrefixOf_iff_prefix.mp hpre
      refine .inr ⟨[], rest, hrest.symm, rfl, ?_⟩
      rw [← hrest, List.drop_left]
    · rw [if_neg hpre, if_neg hpre]
      obtain ⟨hfind, hafter⟩ | ⟨before, rest, rfl, hfind, hafter⟩ := ih
      · exact .inl ⟨by rw [hfind]; rfl, hafter⟩
      · refine .inr ⟨c :: before, rest, rfl, ?_, hafter⟩
        rw [hfind, byteLength_cons]
        rfl

/-- A text can be sliced at the first occurrence of a character, or at its end if there is none. -/
theorem splitText_findText (c : Char) (cs : List Char) :
    splitText cs ((findText [c] cs).getD (byteLength cs)) =
      .ok (cs.takeWhile (fun d => d ≠ c), cs.dropWhile fun d => d ≠ c) := by
  have hlength : (findText [c] cs).getD (byteLength cs) =
      byteLength (cs.takeWhile fun d => d ≠ c) := by
    induction cs with
    | nil => rfl
    | cons d cs ih =>
      by_cases hd : d = c
      · subst hd
        rw [findText, if_pos (by simp), List.takeWhile_cons_of_neg (by simp)]
        rfl
      · have hpre : ¬[c].isPrefixOf (d :: cs) := by simp [List.isPrefixOf, Ne.symm hd]
        rw [findText, if_neg hpre, List.takeWhile_cons_of_pos (by simpa using hd), byteLength_cons,
          byteLength_cons, ← ih]
        cases findText [c] cs <;> rfl
  rw [hlength]
  exact splitText_eq_ok.mpr ⟨List.takeWhile_append_dropWhile.symm, rfl⟩

/-- A signed number of 64 bits. -/
def Fits (n : ℤ) : Prop := -(2 ^ 63) ≤ n ∧ n < 2 ^ 63

instance (n : ℤ) : Decidable (Fits n) := inferInstanceAs (Decidable (_ ∧ _))

/-- Addition of signed 64-bit numbers. -/
def addI64 (a b : ℤ) : Checked ℤ := if Fits (a + b) then .ok (a + b) else .error .overflow

theorem addI64_of_fits {a b : ℤ} (h : Fits (a + b)) : addI64 a b = .ok (a + b) := if_pos h

/-- Addition of signed 64-bit numbers that wraps. -/
def wrapAddI64 (a b : ℤ) : ℤ := (a + b).bmod (2 ^ 64)

/-- A sum that wraps compares to all numbers as the sum does exactly when the sum fits. -/
theorem wrapAddI64_lt_iff {a b : ℤ} (ha : Fits a) (hb : Fits b) :
    (∀ n, Fits n → (wrapAddI64 a b < n ↔ a + b < n)) ↔ Fits (a + b) := by
  unfold Fits at *
  constructor
  · intro h
    by_contra hfits
    rcases lt_or_ge (a + b) 0 with hneg | hpos
    · have hwrap : wrapAddI64 a b = a + b + 2 ^ 64 := by
        unfold wrapAddI64
        rw [← Int.add_bmod_right, Int.bmod_eq_of_le (by omega) (by omega)]
        rfl
      have hzero := h 0 (by omega)
      omega
    · have hwrap : wrapAddI64 a b = a + b - 2 ^ 64 := by
        unfold wrapAddI64
        rw [← Int.sub_bmod_right, Int.bmod_eq_of_le (by omega) (by omega)]
        rfl
      have hlast := h (2 ^ 63 - 1) (by omega)
      omega
  · rintro ⟨hlow, hhigh⟩ n -
    unfold wrapAddI64
    rw [Int.bmod_eq_of_le (by omega) (by omega)]

end Checked

import ConstructTui.Invite.Grammar
import ConstructTui.Lib.Checked

/-!
# The reader on offsets

The reader of the source keeps the whole data and an offset into it, and slices the data. It never
slices outside of it, and reads what the reader on the rest of the data reads.

## Main definitions

* `Invite.Cursor`, `Invite.CursorReader`: the offset, and what reads from there.
* `Invite.Cursor.readBinary`: the fields of a binary invite.
* `Invite.Follows`: a reader on offsets does what a reader on the rest does.

## Main results

* `Invite.follows_readBinary`: reading an invite never slices outside the data.
* `Invite.accepts_grammar`: what is accepted as a binary invite.
-/

namespace Invite

variable (L : InviteLibs)

/-- The data, and how many of its bytes have been read. -/
structure Cursor where
  data : Bytes
  i : ℕ

/-- What reads from an offset, which can fail or panic. -/
abbrev CursorReader := StateT Cursor (ExceptT String Checked)

namespace Cursor

def take (n : ℕ) : CursorReader Bytes := fun r =>
  if r.i + n ≤ r.data.length then
    (Checked.slice r.data r.i (r.i + n)).map fun slice => .ok (slice, { r with i := r.i + n })
  else .ok (.error "truncated CIv1")

def u8 : CursorReader UInt8 := do return (← take 1).headD 0

def atEnd : CursorReader Bool := do return (← get).i = (← get).data.length

/-- An answer that does not come from the data. -/
def lift {α : Type} (x : Except String α) : CursorReader α := fun r =>
  .ok (x.map fun a => (a, r))

/-- A text of known length. -/
def text (n : ℕ) (msg : String) : CursorReader String := do
  lift (context msg (Utf8.decode? (← take n)))

def readEphKey (v : UInt8) : CursorReader String := do
  if v ≤ 3 then return L.b64Encode (← take 32) else return ""

def readUsername (flags : UInt8) : CursorReader (Option String) := do
  if flags &&& 1 ≠ 0 then
    let n ← u8
    return some (← text n.toNat "un utf8")
  else return none

def readTtl (v : UInt8) : CursorReader (Option ℕ) := do
  if 5 ≤ v then return some (BigEndian.ofBe (← take 4)) else return none

/-- The fields of a binary invite, in order. -/
def readBinary : CursorReader Invite := do
  let start ← take 4
  lift (ensure (start = magic) "bad CIv1 magic")
  let flags ← u8
  let v ← u8
  let jti ← lift (uuidString L (← take 16))
  let uuid ← lift (uuidString L (← take 16))
  let deviceId := L.hexEncode (← take 16)
  let ephKey ← readEphKey L v
  let ts := (BitVec.ofNat 64 (BigEndian.ofBe (← take 8))).toInt
  let sig := L.b64Encode (← take 64)
  let serverLen ← u8
  let server ← text serverLen.toNat "server utf8"
  let un ← readUsername flags
  let ttl ← readTtl v
  lift (ensure (← atEnd) "trailing bytes")
  return ⟨v, jti, uuid, deviceId, server, ephKey, ts, sig, un, ttl⟩

end Cursor

/-! ### Both readers do the same -/

variable {α β : Type}

/-- From every offset in the data, `x` fails as `y` does on the rest, or reads what `y` reads and
stops at an offset in the data. -/
def Follows (x : CursorReader α) (y : Reader α) : Prop := ∀ data i, i ≤ data.length →
  (∀ e, y (data.drop i) = .error e → x ⟨data, i⟩ = .ok (.error e)) ∧
    ∀ a rest, y (data.drop i) = .ok (a, rest) →
      ∃ j, j ≤ data.length ∧ rest = data.drop j ∧ x ⟨data, i⟩ = .ok (.ok (a, ⟨data, j⟩))

namespace Follows

theorem pure (a : α) : Follows (Pure.pure a) (Pure.pure a) := by
  intro data i hi
  refine ⟨fun e he => (by cases he), fun b rest h => ?_⟩
  obtain ⟨rfl, rfl⟩ := Prod.mk.inj (Except.ok.inj h)
  exact ⟨i, hi, rfl, rfl⟩

theorem bind {x : CursorReader α} {y : Reader α} {f : α → CursorReader β} {g : α → Reader β}
    (hx : Follows x y) (hf : ∀ a, Follows (f a) (g a)) : Follows (x >>= f) (y >>= g) := by
  intro data i hi
  obtain ⟨herror, hok⟩ := hx data i hi
  cases hy : y (data.drop i) with
  | error e =>
    have hbind : (y >>= g) (data.drop i) = .error e := by
      show (y (data.drop i) >>= fun p => g p.1 p.2) = _
      rw [hy]
      rfl
    have hxbind : (x >>= f) ⟨data, i⟩ = .ok (.error e) := by
      show ((x ⟨data, i⟩ : Checked _) >>= _) = _
      rw [herror e hy]
      rfl
    rw [hbind]
    exact ⟨fun e' he => Except.error.inj he ▸ hxbind, fun a rest h => by cases h⟩
  | ok p =>
    obtain ⟨a, rest⟩ := p
    obtain ⟨j, hj, rfl, hxj⟩ := hok a rest hy
    have hbind : (y >>= g) (data.drop i) = g a (data.drop j) := Reader.bind_of_ok hy
    have hxbind : (x >>= f) ⟨data, i⟩ = f a ⟨data, j⟩ := by
      show ((x ⟨data, i⟩ : Checked _) >>= _) = _
      rw [hxj]
      rfl
    rw [hbind, hxbind]
    exact hf a data j hj

theorem lift (x : Except String α) : Follows (Cursor.lift x) (liftM x) := by
  intro data i hi
  cases x with
  | error e => exact ⟨fun e' he => Except.error.inj he ▸ rfl, fun a rest h => by cases h⟩
  | ok a =>
    refine ⟨fun e he => (by cases he), fun b rest h => ?_⟩
    obtain ⟨rfl, rfl⟩ := Prod.mk.inj (Except.ok.inj h)
    exact ⟨i, hi, rfl, rfl⟩

/-- Taking bytes never slices outside the data. -/
theorem take (n : ℕ) : Follows (Cursor.take n) (Reader.take n) := by
  intro data i hi
  unfold Cursor.take Reader.take
  rw [List.length_drop]
  by_cases hn : i + n ≤ data.length
  · rw [if_pos (show n ≤ data.length - i by omega), if_pos hn, Checked.slice_of_le hn]
    refine ⟨fun e he => (by cases he), fun a rest h => ?_⟩
    obtain ⟨rfl, rfl⟩ := Prod.mk.inj (Except.ok.inj h)
    exact ⟨i + n, hn, List.drop_drop, rfl⟩
  · rw [if_neg (show ¬n ≤ data.length - i by omega), if_neg hn]
    exact ⟨fun e he => Except.error.inj he ▸ rfl, fun a rest h => by cases h⟩

theorem atEnd : Follows Cursor.atEnd Reader.atEnd := by
  intro data i hi
  refine ⟨fun e he => (by cases he), fun b rest h => ?_⟩
  obtain ⟨rfl, rfl⟩ := Prod.mk.inj (Except.ok.inj h)
  refine ⟨i, hi, rfl, ?_⟩
  have hend : decide (i = data.length) = (data.drop i).isEmpty := by
    rw [Bool.eq_iff_iff, decide_eq_true_eq, List.isEmpty_iff, List.drop_eq_nil_iff]
    omega
  rw [← hend]
  rfl

theorem ite {c : Prop} [Decidable c] {x x' : CursorReader α} {y y' : Reader α} (hx : Follows x y)
    (hx' : Follows x' y') : Follows (if c then x else x') (if c then y else y') := by
  by_cases hc : c
  · rw [if_pos hc, if_pos hc]
    exact hx
  · rw [if_neg hc, if_neg hc]
    exact hx'

theorem u8 : Follows Cursor.u8 Reader.u8 := .bind (.take 1) fun _ => .pure _

theorem text (n : ℕ) (msg : String) : Follows (Cursor.text n msg) (Reader.text n msg) :=
  .bind (.take n) fun _ => .lift _

end Follows

theorem follows_readEphKey (v : UInt8) : Follows (Cursor.readEphKey L v) (readEphKey L v) :=
  .ite (.bind (.take 32) fun _ => .pure _) (.pure _)

theorem follows_readUsername (flags : UInt8) :
    Follows (Cursor.readUsername flags) (readUsername flags) :=
  .ite (.bind .u8 fun _ => .bind (.text _ _) fun _ => .pure _) (.pure _)

theorem follows_readTtl (v : UInt8) : Follows (Cursor.readTtl v) (readTtl v) :=
  .ite (.bind (.take 4) fun _ => .pure _) (.pure _)

/-- No field is sliced outside the data, whatever the fields before it say. -/
theorem follows_readBinary : Follows (Cursor.readBinary L) (readBinary L) :=
  .bind (.take 4) fun _ => .bind (.lift _) fun _ =>
  .bind .u8 fun _ => .bind .u8 fun v =>
  .bind (.take 16) fun _ => .bind (.lift _) fun _ =>
  .bind (.take 16) fun _ => .bind (.lift _) fun _ =>
  .bind (.take 16) fun _ => .bind (follows_readEphKey L v) fun _ =>
  .bind (.take 8) fun _ => .bind (.take 64) fun _ =>
  .bind .u8 fun _ => .bind (.text _ _) fun _ =>
  .bind (follows_readUsername _) fun _ => .bind (follows_readTtl v) fun _ =>
  .bind .atEnd fun _ => .bind (.lift _) fun _ => .pure _

/-- A string is accepted as a binary invite if and only if its parts make it up and its time and
lifetime are allowed; no slice of the data panics on the way; and of two strings that are accepted
none starts the other. -/
theorem accepts_grammar (clock : Option UInt64) :
    (∀ data, (∃ i, decodeBinary L clock data = .ok i) ↔
      ∃ c : Civ1, c.bytes = data ∧ c.Timely (nowUnix clock)) ∧
    (∀ data, ∃ r, Cursor.readBinary L ⟨data, 0⟩ = .ok r ∧
      r.map Prod.fst = (readBinary L data).map Prod.fst) ∧
    ∀ data data' i i', decodeBinary L clock data = .ok i → decodeBinary L clock data' = .ok i' →
      data <+: data' → data = data' := by
  refine ⟨fun data => ?_, fun data => ?_, ?_⟩
  · constructor
    · rintro ⟨i, hi⟩
      obtain ⟨c, hc, htimely, -⟩ := decodeBinary_eq_ok.mp hi
      exact ⟨c, hc, htimely⟩
    · rintro ⟨c, hc, htimely⟩
      exact ⟨c.invite L, decodeBinary_eq_ok.mpr ⟨c, hc, htimely, rfl⟩⟩
  · obtain ⟨herror, hok⟩ := follows_readBinary L data 0 (Nat.zero_le _)
    rw [List.drop_zero] at herror hok
    cases hread : readBinary L data with
    | error e => exact ⟨_, herror e hread, rfl⟩
    | ok p =>
      obtain ⟨j, -, -, hcursor⟩ := hok p.1 p.2 hread
      exact ⟨_, hcursor, rfl⟩
  · intro data data' i i' h h' hprefix
    obtain ⟨c, rfl, -, -⟩ := decodeBinary_eq_ok.mp h
    obtain ⟨c', rfl, -, -⟩ := decodeBinary_eq_ok.mp h'
    rw [Civ1.eq_of_starts hprefix]

end Invite

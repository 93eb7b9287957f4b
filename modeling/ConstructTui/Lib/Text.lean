import Mathlib.Algebra.Order.Ring.Int
import Mathlib.Data.List.TakeWhile

/-!
# Trimming and searching text

The parts of `str` that work on any text: white space, trimming, and the first occurrence of a
pattern. Texts are lists of characters.

## Main definitions

* `isWhitespace`, `trimChars`, `trimStartMatches`, `trimEndChar`, `stripSuffix`.
* `afterText`: what follows the first occurrence of a pattern.

## Main results

* `trimChars_around`, `trimChars_pad`: what trimming leaves of a text with something around it.
* `afterText_append`: a pattern is found where it first can be.
* `toList_toString_nat_inj`, `toList_toString_int_inj`: decimal numbers are told from their text.
-/

/-- White space, as in Unicode. -/
def isWhitespace (c : Char) : Bool :=
  let n := c.toNat
  9 ≤ n && n ≤ 13 || n = 0x20 || n = 0x85 || n = 0xA0 || n = 0x1680 || 0x2000 ≤ n && n ≤ 0x200A ||
    n = 0x2028 || n = 0x2029 || n = 0x202F || n = 0x205F || n = 0x3000

/-- `str::trim`. -/
def trimChars (cs : List Char) : List Char :=
  ((cs.dropWhile isWhitespace).reverse.dropWhile isWhitespace).reverse

/-- Take a pattern off the start, at most `fuel` times. -/
def trimStartLoop (pat : List Char) : ℕ → List Char → List Char
  | 0, cs => cs
  | fuel + 1, cs =>
    if pat.isPrefixOf cs then trimStartLoop pat fuel (cs.drop pat.length) else cs

/-- `str::trim_start_matches`, for a pattern that is not empty. -/
def trimStartMatches (pat : List Char) (cs : List Char) : List Char :=
  trimStartLoop pat cs.length cs

/-- `str::trim_end_matches`, for one character. -/
def trimEndChar (c : Char) (cs : List Char) : List Char :=
  (cs.reverse.dropWhile fun d => d = c).reverse

/-- `str::strip_suffix`. -/
def stripSuffix (pat cs : List Char) : Option (List Char) :=
  if pat.isSuffixOf cs then some (cs.take (cs.length - pat.length)) else none

/-- What follows the first occurrence of a pattern. -/
def afterText (pat : List Char) : List Char → Option (List Char)
  | [] => if pat.isEmpty then some [] else none
  | c :: cs =>
    if pat.isPrefixOf (c :: cs) then some ((c :: cs).drop pat.length) else afterText pat cs

/-- No white space stands at either end. -/
def Bare (cs : List Char) : Prop :=
  (∀ c ∈ cs.head?, isWhitespace c = false) ∧ ∀ c ∈ cs.getLast?, isWhitespace c = false

theorem Bare.head_append {core : List Char} (h : Bare core) (hne : core ≠ []) (tail : List Char) :
    ∀ c ∈ (core ++ tail).head?, isWhitespace c = false := by
  obtain ⟨c, cs, rfl⟩ := List.exists_cons_of_ne_nil hne
  exact h.1

theorem Bare.head_reverse {core : List Char} (h : Bare core) :
    ∀ c ∈ core.reverse.head?, isWhitespace c = false := by
  rw [List.head?_reverse]
  exact h.2

theorem dropWhile_of_head {p : Char → Bool} {cs : List Char} (h : ∀ c ∈ cs.head?, p c = false) :
    cs.dropWhile p = cs := by
  cases cs with
  | nil => rfl
  | cons c cs => exact List.dropWhile_cons_of_neg (by simp [h c rfl])

theorem dropWhile_append_of_forall {p : Char → Bool} {pre cs : List Char}
    (hpre : ∀ c ∈ pre, p c) : (pre ++ cs).dropWhile p = cs.dropWhile p := by
  rw [List.dropWhile_append, List.dropWhile_eq_nil_iff.mpr hpre]
  rfl

/-- Of a bare text with white space before it and anything behind, trimming leaves the text and some
of what is behind. -/
theorem trimChars_around {pre core : List Char} (tail : List Char)
    (hpre : ∀ c ∈ pre, isWhitespace c) (hcore : Bare core) (hne : core ≠ []) :
    ∃ rest, rest <+: tail ∧ trimChars (pre ++ (core ++ tail)) = core ++ rest := by
  unfold trimChars
  rw [dropWhile_append_of_forall hpre, dropWhile_of_head (hcore.head_append hne tail),
    List.reverse_append, List.dropWhile_append]
  split
  · refine ⟨[], List.nil_prefix, ?_⟩
    rw [dropWhile_of_head hcore.head_reverse, List.reverse_reverse, List.append_nil]
  · refine ⟨(tail.reverse.dropWhile isWhitespace).reverse, ?_, ?_⟩
    · have hsuffix := List.dropWhile_suffix isWhitespace (l := tail.reverse)
      simpa using List.reverse_prefix.mpr hsuffix
    · rw [List.reverse_append, List.reverse_reverse]

/-- White space around a bare text is trimmed. -/
theorem trimChars_pad {pre core tail : List Char} (hpre : ∀ c ∈ pre, isWhitespace c)
    (hcore : Bare core) (htail : ∀ c ∈ tail, isWhitespace c) :
    trimChars (pre ++ (core ++ tail)) = core := by
  have htail' : ∀ c ∈ tail.reverse, isWhitespace c := fun c hc => htail c (List.mem_reverse.mp hc)
  by_cases hne : core = []
  · subst hne
    have hnil : (tail.dropWhile isWhitespace) = [] := List.dropWhile_eq_nil_iff.mpr htail
    unfold trimChars
    rw [dropWhile_append_of_forall hpre, List.nil_append, hnil]
    rfl
  · unfold trimChars
    rw [dropWhile_append_of_forall hpre, dropWhile_of_head (hcore.head_append hne tail),
      List.reverse_append, dropWhile_append_of_forall htail', dropWhile_of_head hcore.head_reverse,
      List.reverse_reverse]

theorem trimChars_of_bare {core : List Char} (hcore : Bare core) : trimChars core = core := by
  simpa using @trimChars_pad [] core [] (by simp) hcore (by simp)

/-- What is left of a trimmed text is bare. -/
theorem bare_trimChars (cs : List Char) : Bare (trimChars cs) := by
  have hdrop (cs : List Char) : ∀ c ∈ (cs.dropWhile isWhitespace).head?, isWhitespace c =
      false := by
    intro c hc
    have h := List.head?_dropWhile_not isWhitespace cs
    rw [Option.mem_def.mp hc] at h
    simpa using h
  constructor
  · intro c hc
    unfold trimChars at hc
    rw [List.head?_reverse] at hc
    obtain ⟨t, ht⟩ := List.dropWhile_suffix isWhitespace (l := (cs.dropWhile isWhitespace).reverse)
    have hlast : (cs.dropWhile isWhitespace).reverse.getLast? = some c := by
      rw [← ht, List.getLast?_append, Option.mem_def.mp hc]
      rfl
    rw [List.getLast?_reverse] at hlast
    exact hdrop cs c hlast
  · intro c hc
    unfold trimChars at hc
    rw [List.getLast?_reverse] at hc
    exact hdrop _ c hc

/-- A pattern is found behind a text that its first character does not occur in. -/
theorem afterText_append {c : Char} {cs pre : List Char} (h : c ∉ pre) (rest : List Char) :
    afterText (c :: cs) (pre ++ (c :: cs ++ rest)) = some rest := by
  induction pre with
  | nil =>
    rw [List.nil_append, List.cons_append, afterText, if_pos (by simp), ← List.cons_append,
      List.drop_left]
  | cons d pre ih =>
    obtain ⟨hd, hpre⟩ : c ≠ d ∧ c ∉ pre := by simpa using h
    rw [List.cons_append, afterText, if_neg (by simp [List.isPrefixOf, hd]), ih hpre]

/-- A pattern is not found in a text that one of its characters does not occur in. -/
theorem afterText_eq_none {pat cs : List Char} {c : Char} (hc : c ∈ pat) (h : c ∉ cs) :
    afterText pat cs = none := by
  induction cs with
  | nil =>
    rw [afterText, if_neg]
    rw [List.isEmpty_iff]
    exact List.ne_nil_of_mem hc
  | cons d cs ih =>
    rw [afterText, if_neg, ih fun hmem => h (List.mem_cons_of_mem _ hmem)]
    intro hpre
    exact h ((List.isPrefixOf_iff_prefix.mp hpre).subset hc)

/-! ### Decimal numbers -/

theorem toList_toString_nat_inj {m n : ℕ} (h : (toString m).toList = (toString n).toList) :
    m = n := by
  rw [← Nat.ofDigitChars_toDigits (b := 10) (n := m) (by decide) (by decide),
    ← Nat.ofDigitChars_toDigits (b := 10) (n := n) (by decide) (by decide),
    ← Nat.toList_repr, ← Nat.toList_repr]
  exact congrArg (Nat.ofDigitChars 10 · 0) h

theorem not_mem_toString_nat {c : Char} (hc : c.isDigit = false) (n : ℕ) :
    c ∉ (toString n).toList := by
  intro h
  have hdigit := Nat.isDigit_of_mem_toDigits (b := 10) (n := n) (c := c) (by decide) (by decide)
    (Nat.toList_repr ▸ h)
  rw [hc] at hdigit
  cases hdigit

theorem toList_toString_int (n : ℤ) : (toString n).toList =
    if n < 0 then '-' :: (toString n.natAbs).toList else (toString n.natAbs).toList := by
  cases n with
  | ofNat n => rfl
  | negSucc n =>
    rw [if_pos (Int.negSucc_lt_zero n)]
    show ("-" ++ Nat.repr (n + 1)).toList = _
    rw [String.toList_append]
    rfl

theorem not_mem_toString_int {c : Char} (hc : c.isDigit = false) (hdash : c ≠ '-') (n : ℤ) :
    c ∉ (toString n).toList := by
  rw [toList_toString_int]
  split
  · intro h
    rcases List.mem_cons.mp h with h | h
    · exact hdash h
    · exact not_mem_toString_nat hc _ h
  · exact not_mem_toString_nat hc _

theorem toList_toString_int_inj {m n : ℤ} (h : (toString m).toList = (toString n).toList) :
    m = n := by
  have hdash (m n : ℕ) : '-' :: (toString m).toList ≠ (toString n).toList :=
    fun h => not_mem_toString_nat (c := '-') rfl n (h ▸ List.mem_cons_self)
  rw [toList_toString_int, toList_toString_int] at h
  split at h <;> split at h
  · have habs := toList_toString_nat_inj (List.cons.inj h).2
    omega
  · exact absurd h (hdash _ _)
  · exact absurd h.symm (hdash _ _)
  · have habs := toList_toString_nat_inj h
    omega

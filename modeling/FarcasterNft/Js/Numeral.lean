import Mathlib.Algebra.Order.Field.Basic
import Mathlib.Algebra.Order.Ring.Rat
import Mathlib.Tactic.FieldSimp
import Mathlib.Tactic.Linarith
import FarcasterNft.Js.Json
import FarcasterNft.Js.Number

/-!
# Numerals of number inputs

What a number input of a form accepts: digits with a sign, a fraction and an exponent, all three
optional. `parseInt` reads the digits up to the point or the exponent and leaves out the rest, so
it yields the value of the numeral only where the rest does not matter.
-/

namespace Js

/-- An exponent: the letter, a sign or none, and digits. -/
structure Exponent where
  letter : UInt16
  sign : JsString
  digits : JsString
  letter_mem : letter = 101 ∨ letter = 69
  sign_mem : sign = [] ∨ sign = [43] ∨ sign = [45]
  isDigits_digits : isDigits digits = true

/-- A numeral with digits before or after the point, or both. Without digits after it there is
no point. -/
structure Numeral where
  negative : Bool
  whole : JsString
  fraction : JsString
  exponent : Option Exponent
  isDigit_whole : ∀ u ∈ whole, isDigit u = true
  isDigit_fraction : ∀ u ∈ fraction, isDigit u = true
  ne_nil : whole ≠ [] ∨ fraction ≠ []

/-! ### Text and value -/

def Exponent.text (e : Exponent) : JsString := e.letter :: (e.sign ++ e.digits)

def Exponent.value (e : Exponent) : ℤ :=
  if e.sign = [45] then -decimalValue e.digits else decimalValue e.digits

namespace Numeral

/-- The text from the point or the exponent on. -/
def suffix (x : Numeral) : JsString :=
  (if x.fraction = [] then [] else 46 :: x.fraction) ++ x.exponent.elim [] Exponent.text

def text (x : Numeral) : JsString :=
  (if x.negative then [45] else []) ++ (x.whole ++ x.suffix)

def exponentValue (x : Numeral) : ℤ := x.exponent.elim 0 Exponent.value

/-- The value without the sign. -/
def magnitude (x : Numeral) : ℚ :=
  decimalValue (x.whole ++ x.fraction) * 10 ^ (x.exponentValue - x.fraction.length)

def value (x : Numeral) : ℚ := if x.negative then -x.magnitude else x.magnitude

end Numeral

/-! ### Reading digits -/

lemma toNat_of_isDigit {u : UInt16} (h : isDigit u = true) : 48 ≤ u.toNat ∧ u.toNat ≤ 57 := by
  rw [isDigit, Bool.and_eq_true, decide_eq_true_iff, decide_eq_true_iff] at h
  exact ⟨UInt16.le_iff_toNat_le.mp h.1, UInt16.le_iff_toNat_le.mp h.2⟩

lemma digitValue_of_isDigit {u : UInt16} (h : isDigit u = true) :
    digitValue 10 u = some (u.toNat - 48) := by
  have hu := toNat_of_isDigit h
  have hlt : u.toNat - 48 < 10 := by omega
  simp only [digitValue, if_pos hu, if_pos hlt]

/-- The number that digits spell is less than the power of ten of their count. -/
lemma decimalValue_lt {s : JsString} (h : ∀ u ∈ s, isDigit u = true) :
    decimalValue s < 10 ^ s.length := by
  induction s using List.reverseRecOn with
  | nil => decide
  | append_singleton s u ih =>
    have hs := ih fun v hv => h v (List.mem_append_left _ hv)
    have hu := toNat_of_isDigit (h u (List.mem_append_right _ (List.mem_singleton_self u)))
    rw [decimalValue_concat, List.length_append, List.length_singleton, pow_succ]
    omega

lemma foldl_digitValue {s : JsString} (h : ∀ u ∈ s, isDigit u = true) :
    (s.map (digitValue 10)).foldl (fun n d => (10 : ℕ) * n + (d.getD 0 : ℤ)) 0 =
      decimalValue s := by
  induction s using List.reverseRecOn with
  | nil => rfl
  | append_singleton s u ih =>
    have hs := ih fun v hv => h v (List.mem_append_left _ hv)
    have hu := digitValue_of_isDigit (h u (List.mem_append_right _ (List.mem_singleton_self u)))
    rw [List.map_append, List.map_singleton, List.foldl_append, hs, decimalValue_concat]
    simp [hu]

/-- Digits are read up to the first unit that is none. -/
lemma digitsValue_append {s t : JsString} (hs : ∀ u ∈ s, isDigit u = true)
    (ht : ∀ u ∈ t.head?, digitValue 10 u = none) :
    digitsValue 10 (s ++ t) = if s = [] then none else some (decimalValue s : ℤ) := by
  have hdigits : ∀ d ∈ s.map (digitValue 10), d.isSome = true := by
    intro d hd
    obtain ⟨u, hu, rfl⟩ := List.mem_map.mp hd
    rw [digitValue_of_isDigit (hs u hu)]
    rfl
  have hrest : (t.map (digitValue 10)).takeWhile Option.isSome = [] := by
    cases t with
    | nil => rfl
    | cons u t =>
      rw [List.map_cons, ht u rfl]
      rfl
  have htake : ((s ++ t).map (digitValue 10)).takeWhile Option.isSome =
      s.map (digitValue 10) := by
    rw [List.map_append, List.takeWhile_append_of_pos hdigits, hrest, List.append_nil]
  rw [digitsValue, htake]
  cases s with
  | nil => rfl
  | cons u s =>
    rw [if_neg (List.cons_ne_nil u s), ← foldl_digitValue hs]
    rfl

/-! ### What `parseInt` reads -/

namespace Numeral

variable (x : Numeral)

lemma head_suffix : ∀ u ∈ x.suffix.head?, u = 46 ∨ u = 101 ∨ u = 69 := by
  intro u hu
  rw [suffix] at hu
  split_ifs at hu with hfraction
  · cases hexponent : x.exponent with
    | none =>
      rw [hexponent] at hu
      cases hu
    | some e =>
      rw [hexponent] at hu
      obtain rfl : e.letter = u := Option.some.inj hu
      exact Or.inr e.letter_mem
  · exact Or.inl (Option.some.inj hu).symm

lemma digitValue_head_suffix : ∀ u ∈ x.suffix.head?, digitValue 10 u = none := by
  intro u hu
  rcases x.head_suffix u hu with rfl | rfl | rfl
  · decide
  · decide
  · decide

/-- A numeral does not start with `0x`. -/
lemma ne_of_eq_cons {u : UInt16} {us : JsString} (h : x.whole ++ x.suffix = 48 :: u :: us) :
    ¬ (u = 120 ∨ u = 88) := by
  have hdigit : isDigit u = true ∨ u = 46 ∨ u = 101 ∨ u = 69 := by
    cases hwhole : x.whole with
    | nil =>
      rw [hwhole, List.nil_append] at h
      have hhead := x.head_suffix 48 (by rw [h]; rfl)
      exact absurd hhead (by decide)
    | cons v vs =>
      rw [hwhole, List.cons_append] at h
      have htail := (List.cons.inj h).2
      cases vs with
      | nil => exact Or.inr (x.head_suffix u (by rw [← List.nil_append x.suffix, htail]; rfl))
      | cons w ws =>
        obtain rfl := (List.cons.inj htail).1
        exact Or.inl (x.isDigit_whole _ (by rw [hwhole]; simp))
  rintro (rfl | rfl)
  · exact absurd hdigit (by decide)
  · exact absurd hdigit (by decide)

/-- After the sign, the digits before the point are read. -/
lemma unsignedValue_append_suffix :
    unsignedValue none (x.whole ++ x.suffix) =
      if x.whole = [] then none else some (decimalValue x.whole : ℤ) := by
  rw [← digitsValue_append x.isDigit_whole x.digitValue_head_suffix]
  have hprefix : ∀ u us, x.whole ++ x.suffix = 48 :: u :: us → ¬ (u = 120 ∨ u = 88) :=
    fun _ _ => x.ne_of_eq_cons
  generalize x.whole ++ x.suffix = s at hprefix
  rw [unsignedValue.eq_def]
  split
  · next u ds =>
    rw [if_neg fun h => hprefix u ds rfl h.1]
    rfl
  · rfl

/-- What follows the sign starts with a digit, or with the point. -/
lemma exists_append_suffix_eq_cons :
    ∃ u us, x.whole ++ x.suffix = u :: us ∧ (isDigit u = true ∨ u = 46) := by
  cases hwhole : x.whole with
  | nil =>
    have hfraction := x.ne_nil.resolve_left (not_not_intro hwhole)
    refine ⟨46, x.fraction ++ x.exponent.elim [] Exponent.text, ?_, Or.inr rfl⟩
    rw [suffix, if_neg hfraction]
    rfl
  | cons u us =>
    refine ⟨u, us ++ x.suffix, rfl, Or.inl (x.isDigit_whole u ?_)⟩
    rw [hwhole]
    exact List.mem_cons_self

lemma text_ne_nil : x.text ≠ [] := by
  obtain ⟨u, us, hcons, -⟩ := x.exists_append_suffix_eq_cons
  rw [text, hcons]
  exact List.append_ne_nil_of_right_ne_nil _ (List.cons_ne_nil u us)

lemma parseInt_append_suffix :
    parseInt (x.whole ++ x.suffix) none = unsignedValue none (x.whole ++ x.suffix) := by
  obtain ⟨u, us, hcons, hu⟩ := x.exists_append_suffix_eq_cons
  rw [hcons]
  have hrange : 46 ≤ u.toNat ∧ u.toNat ≤ 57 := by
    rcases hu with hdigit | rfl
    · have hnat := toNat_of_isDigit hdigit
      omega
    · decide
  have hspace : isWhitespace u = false := by
    have hbelow : ¬ (0x2000 : UInt16) ≤ u := by
      intro h
      have hle : 0x2000 ≤ u.toNat := UInt16.le_iff_toNat_le.mp h
      omega
    have hlist : u.toNat ∉
        [9, 10, 11, 12, 13, 32, 0xA0, 0x1680, 0x2028, 0x2029, 0x202F, 0x205F, 0x3000, 0xFEFF] := by
      simp
      omega
    rw [isWhitespace, decide_eq_false hlist, decide_eq_false hbelow]
    rfl
  rw [parseInt, List.dropWhile_cons_of_neg (by rw [hspace]; decide)]
  split
  · next heq =>
    obtain rfl := (List.cons.inj heq).1
    exact absurd hrange (by decide)
  · next heq =>
    obtain rfl := (List.cons.inj heq).1
    exact absurd hrange (by decide)
  · rfl

/-- `parseInt` reads the sign and the digits before the point. -/
theorem parseInt_text :
    parseInt x.text none =
      if x.whole = [] then none
      else some (if x.negative then -(decimalValue x.whole : ℤ) else decimalValue x.whole) := by
  cases hnegative : x.negative with
  | true =>
    have htext : x.text = 45 :: (x.whole ++ x.suffix) := by
      rw [text, hnegative]
      rfl
    rw [htext, if_pos rfl]
    show (unsignedValue none (x.whole ++ x.suffix)).map (-·) = _
    rw [x.unsignedValue_append_suffix]
    split_ifs
    · rfl
    · rfl
  | false =>
    have htext : x.text = x.whole ++ x.suffix := by
      rw [text, hnegative]
      rfl
    rw [htext, if_neg Bool.false_ne_true, parseInt_append_suffix]
    exact x.unsignedValue_append_suffix

/-! ### Where the rest does not matter -/

lemma magnitude_nonneg : 0 ≤ x.magnitude := by
  rw [magnitude]
  exact mul_nonneg (Nat.cast_nonneg _) (zpow_nonneg (by norm_num) _)

/-- The magnitude in terms of the digits before and after the point. -/
lemma magnitude_eq :
    x.magnitude * 10 ^ x.fraction.length =
      (decimalValue x.whole * 10 ^ x.fraction.length + decimalValue x.fraction : ℕ) *
        10 ^ x.exponentValue := by
  have hten : (10 : ℚ) ≠ 0 := by norm_num
  rw [magnitude, decimalValue_append, mul_assoc, ← zpow_natCast, ← zpow_add₀ hten,
    sub_add_cancel]

/-- A nonzero multiple of `10 ^ n` and that plus fewer than `10 ^ n` do not differ by a power of
ten, unless they are equal. -/
lemma eq_zero_of_eq_mul_zpow {a f : ℕ} {e : ℤ} (ha : 0 < a) (hf : f < a)
    (h : (a : ℚ) = (a + f : ℕ) * 10 ^ e) : f = 0 ∧ e = 0 := by
  obtain ⟨m, rfl | rfl⟩ := Int.eq_nat_or_neg e
  · rw [zpow_natCast] at h
    have hnat : a = (a + f) * 10 ^ m := by exact_mod_cast h
    cases m with
    | zero =>
      rw [pow_zero, mul_one] at hnat
      exact ⟨by omega, rfl⟩
    | succ m =>
      have hten : 10 ≤ 10 ^ (m + 1) := Nat.le_self_pow (Nat.succ_ne_zero m) 10
      have hlarge := Nat.mul_le_mul_left (a + f) hten
      omega
  · have hten : (10 : ℚ) ^ m ≠ 0 := pow_ne_zero m (by norm_num)
    rw [zpow_neg, zpow_natCast, eq_mul_inv_iff_mul_eq₀ hten] at h
    have hnat : a * 10 ^ m = a + f := by exact_mod_cast h
    cases m with
    | zero =>
      rw [pow_zero, mul_one] at hnat
      exact ⟨by omega, rfl⟩
    | succ m =>
      have hten : 10 ≤ 10 ^ (m + 1) := Nat.le_self_pow (Nat.succ_ne_zero m) 10
      have hlarge := Nat.mul_le_mul_left a hten
      omega

/-- A numeral has the value of the digits before the point exactly if it is zero, or the digits
after the point and the exponent are. -/
theorem magnitude_eq_whole_iff :
    x.magnitude = decimalValue x.whole ↔
      x.magnitude = 0 ∨ decimalValue x.fraction = 0 ∧ x.exponentValue = 0 := by
  have hmagnitude := x.magnitude_eq
  have hfraction := decimalValue_lt x.isDigit_fraction
  have hpow : (10 : ℚ) ^ x.fraction.length ≠ 0 := pow_ne_zero _ (by norm_num)
  constructor
  · intro h
    rw [h] at hmagnitude
    rcases Nat.eq_zero_or_pos (decimalValue x.whole) with hzero | hpos
    · left
      rw [h, hzero, Nat.cast_zero]
    · right
      have hle := Nat.le_mul_of_pos_left (10 ^ x.fraction.length) hpos
      apply eq_zero_of_eq_mul_zpow (Nat.mul_pos hpos (Nat.pow_pos (by decide)))
        (hfraction.trans_le hle)
      rw [← hmagnitude, Nat.cast_mul, Nat.cast_pow, Nat.cast_ofNat]
  · rintro (hzero | ⟨hfraction, hexponent⟩)
    · rw [hzero, zero_mul, eq_comm, mul_eq_zero] at hmagnitude
      have hdigits := hmagnitude.resolve_right (zpow_ne_zero _ (by norm_num))
      have hwhole : decimalValue x.whole = 0 := by
        have hsum := Nat.eq_zero_of_add_eq_zero_right (Nat.cast_eq_zero.mp hdigits)
        exact (Nat.mul_eq_zero.mp hsum).resolve_right (pow_ne_zero _ (by decide))
      rw [hzero, hwhole, Nat.cast_zero]
    · rw [hfraction, hexponent, zpow_zero, mul_one, Nat.add_zero, Nat.cast_mul, Nat.cast_pow,
        Nat.cast_ofNat] at hmagnitude
      exact mul_right_cancel₀ hpow hmagnitude

/-- Only zero may have a sign without being negative. -/
lemma magnitude_eq_zero (h : 0 ≤ x.value) (hnegative : x.negative = true) : x.magnitude = 0 := by
  rw [value, if_pos hnegative] at h
  exact le_antisymm (neg_nonneg.mp h) x.magnitude_nonneg

lemma value_eq_magnitude (h : 0 ≤ x.value) : x.value = x.magnitude := by
  by_cases hnegative : x.negative = true
  · rw [value, if_pos hnegative, x.magnitude_eq_zero h hnegative, neg_zero]
  · rw [value, if_neg hnegative]

/-- A numeral that is not negative is read as the digits before the point. -/
theorem getD_parseInt_text (h : 0 ≤ x.value) :
    (parseInt x.text none).getD 0 = decimalValue x.whole := by
  rw [parseInt_text]
  by_cases hwhole : x.whole = []
  · rw [if_pos hwhole, hwhole]
    rfl
  · rw [if_neg hwhole, Option.getD_some]
    split_ifs with hnegative
    · have hzero := x.magnitude_eq_zero h hnegative
      have hread := (x.magnitude_eq_whole_iff.mpr (Or.inl hzero)).symm.trans hzero
      rw [Nat.cast_eq_zero.mp hread, Nat.cast_zero, neg_zero]
    · rfl

end Numeral

end Js

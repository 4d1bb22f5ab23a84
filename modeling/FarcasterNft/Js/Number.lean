import Mathlib.Data.Nat.Digits.Defs
import Mathlib.Data.Nat.Digits.Lemmas
import FarcasterNft.Js.Text

/-!
# Numbers in strings

How integers are printed, and how they are read back. `NaN` is `none`. Reading yields the integer
that was written, which `toNumber` rounds to a number where it need not be small enough to be one.
-/

namespace Js

/-! ### Decimal numerals -/

/-- The decimal numeral of a natural number. -/
def decimalText (n : ℕ) : JsString :=
  if n = 0 then js "0" else (Nat.digits 10 n).reverse.map fun d => UInt16.ofNat (48 + d)

/-- The value of a string of decimal digits. -/
def decimalValue (s : JsString) : ℕ := s.foldl (fun n u => 10 * n + (u.toNat - 48)) 0

/-- One more digit at the end. -/
lemma decimalValue_concat (s : JsString) (u : UInt16) :
    decimalValue (s ++ [u]) = 10 * decimalValue s + (u.toNat - 48) := by
  simp [decimalValue]

lemma decimalValue_append (s t : JsString) :
    decimalValue (s ++ t) = decimalValue s * 10 ^ t.length + decimalValue t := by
  induction t using List.reverseRecOn with
  | nil => simp [decimalValue]
  | append_singleton t u ih =>
    rw [← List.append_assoc, decimalValue_concat, ih, decimalValue_concat, List.length_append,
      List.length_singleton, pow_succ]
    ring

lemma decimalValue_map_reverse {ds : List ℕ} (h : ∀ d ∈ ds, d < 10) :
    decimalValue (ds.reverse.map fun d => UInt16.ofNat (48 + d)) = Nat.ofDigits 10 ds := by
  induction ds with
  | nil => rfl
  | cons d ds ih =>
    have hd : d < 10 := h d (by simp)
    have hds := ih fun e he => h e (List.mem_cons_of_mem _ he)
    have hu : (UInt16.ofNat (48 + d)).toNat = 48 + d :=
      UInt16.toNat_ofNat_of_lt' (Nat.lt_of_lt_of_le (Nat.add_lt_add_left hd 48) (by decide))
    rw [List.reverse_cons, List.map_append, List.map_singleton, decimalValue_concat, hds, hu,
      Nat.ofDigits_cons]
    omega

/-- A printed number reads back as itself. -/
theorem decimalValue_decimalText (n : ℕ) : decimalValue (decimalText n) = n := by
  rw [decimalText]
  split_ifs with h
  · rw [h]
    decide
  · rw [decimalValue_map_reverse fun d hd => Nat.digits_lt_base (by decide) hd,
      Nat.ofDigits_digits]

/-- Appending a `1` to the numeral is not adding one to the number. -/
theorem decimalValue_decimalText_one (n : ℕ) :
    decimalValue (decimalText n ++ js "1") = 10 * n + 1 := by
  have hone : js "1" = [49] := by decide
  rw [hone, decimalValue_concat, decimalValue_decimalText]
  rfl

/-! ### Hexadecimal text -/

/-- The lower-case hexadecimal digit of a number below 16. -/
def hexDigit (n : ℕ) : UInt16 := UInt16.ofNat (if n < 10 then 48 + n else 87 + n)

/-- The two digits of a byte. -/
def hexByte (b : UInt8) : JsString := [hexDigit (b.toNat / 16), hexDigit (b.toNat % 16)]

/-- A byte string as the hexadecimal text that stands for it in JSON. -/
def toHex (bytes : List UInt8) : JsString := js "0x" ++ bytes.flatMap hexByte

/-! ### Reading integers -/

/-- The value of a digit, if it is one for the radix. -/
def digitValue (radix : ℕ) (u : UInt16) : Option ℕ :=
  let n := u.toNat
  let d :=
    if 48 ≤ n ∧ n ≤ 57 then n - 48
    else if 97 ≤ n ∧ n ≤ 122 then n - 87
    else if 65 ≤ n ∧ n ≤ 90 then n - 55
    else 36
  if d < radix then some d else none

/-- White space and line terminators. -/
def isWhitespace (u : UInt16) : Bool :=
  u.toNat ∈ [9, 10, 11, 12, 13, 32, 0xA0, 0x1680, 0x2028, 0x2029, 0x202F, 0x205F, 0x3000, 0xFEFF] ||
    (0x2000 ≤ u && u ≤ 0x200A)

/-- The value of the digits at the front of a string, or `NaN` if there are none. -/
def digitsValue (radix : ℕ) (s : JsString) : Option ℤ :=
  match (s.map (digitValue radix)).takeWhile Option.isSome with
  | [] => none
  | ds => some (ds.foldl (fun n d => radix * n + (d.getD 0 : ℤ)) 0)

/-- The digits of a string after its sign: in radix 16 they may follow a `0x`, and without a
radix a `0x` makes it 16. -/
def unsignedValue (radix : Option ℕ) (s : JsString) : Option ℤ :=
  match s with
  | 48 :: x :: ds =>
    if (x = 120 ∨ x = 88) ∧ radix.getD 16 = 16 then digitsValue 16 ds
    else digitsValue (radix.getD 10) s
  | _ => digitsValue (radix.getD 10) s

/-- `parseInt(s, radix)`. -/
def parseInt (s : JsString) (radix : Option ℕ) : Option ℤ :=
  match s.dropWhile isWhitespace with
  | 45 :: us => (unsignedValue radix us).map (-·)
  | 43 :: us => unsignedValue radix us
  | us => unsignedValue radix us

/-- `String.fromCharCode(n, …)`: codes are reduced to 16 bits, and `NaN` to zero. -/
def fromCharCode (codes : List (Option ℤ)) : JsString :=
  codes.map fun code => UInt16.ofInt (code.getD 0)

lemma parseInt_hexDigits :
    ∀ h < 16, ∀ l < 16, parseInt [hexDigit h, hexDigit l] (some 16) = some (16 * h + l : ℤ) := by
  decide +kernel

/-- A byte as a character code. -/
lemma ofInt_toNat (b : UInt8) : UInt16.ofInt (b.toNat : ℤ) = b.toUInt16 := by
  have hb : b.toNat < 256 := b.toNat_lt
  apply UInt16.toNat_inj.mp
  have hmod : ((b.toNat : ℤ) % 2 ^ 16).toNat = b.toNat := by omega
  rw [UInt16.ofInt, hmod, UInt16.toNat_ofNat_of_lt' (by rw [UInt16.size]; omega),
    UInt8.toNat_toUInt16]

lemma toUInt16_lt (b : UInt8) : b.toUInt16 < 256 := by
  rw [UInt16.lt_iff_toNat_lt, UInt8.toNat_toUInt16]
  exact b.toNat_lt

/-- A small code unit survives being stored in a byte. -/
lemma toUInt16_toUInt8_of_lt {u : UInt16} (h : u < 256) : u.toUInt8.toUInt16 = u := by
  rw [UInt16.toUInt16_toUInt8]
  apply UInt16.toNat_inj.mp
  rw [UInt16.toNat_mod]
  exact Nat.mod_eq_of_lt (UInt16.lt_iff_toNat_lt.mp h)

/-- The two digits of a byte read back as the byte. -/
theorem parseInt_hexByte (b : UInt8) : parseInt (hexByte b) (some 16) = some (b.toNat : ℤ) := by
  have hb : b.toNat < 256 := b.toNat_lt
  rw [hexByte, parseInt_hexDigits _ (by omega) _ (by omega)]
  congr 1
  omega

/-! ### Rounding -/

/-- A number that is an integer or infinite. -/
inductive IntegerNumber where
  | finite (n : ℤ)
  | infinite (negative : Bool)
  deriving DecidableEq

/-- The nearest number with 53 binary digits, or the even one of two that are equally near. -/
def roundToDouble (n : ℕ) : ℕ :=
  let ulp := 2 ^ (n.log2 - 52)
  if ulp < 2 * (n % ulp) ∨ 2 * (n % ulp) = ulp ∧ n / ulp % 2 = 1 then (n / ulp + 1) * ulp
  else n / ulp * ulp

/-- What is rounded to this or more is infinite. -/
def overflow : ℕ := 2 ^ 1024

/-- An integer as a number. -/
def toNumber (n : ℤ) : IntegerNumber :=
  if roundToDouble n.natAbs < overflow then .finite (n.sign * roundToDouble n.natAbs)
  else .infinite (n < 0)

lemma roundToDouble_of_lt {n : ℕ} (h : n < 2 ^ 53) : roundToDouble n = n := by
  have hlog : n.log2 - 52 = 0 := by
    rcases Nat.eq_zero_or_pos n with rfl | hpos
    · rfl
    · have := (Nat.log2_lt hpos.ne').mpr h
      omega
  rw [roundToDouble, hlog]
  simp [Nat.mod_one]

/-- Rounding does not make a large number small. -/
lemma le_roundToDouble {n : ℕ} (h : 2 ^ 53 ≤ n) : 2 ^ 53 ≤ roundToDouble n := by
  have hn : n ≠ 0 := by
    rintro rfl
    exact absurd h (by decide)
  have hlog : 53 ≤ n.log2 := (Nat.le_log2 hn).mpr h
  obtain ⟨e, he⟩ : ∃ e, n.log2 = 52 + e := ⟨n.log2 - 52, by omega⟩
  have hdiv : 2 ^ 52 ≤ n / 2 ^ e := by
    rw [Nat.le_div_iff_mul_le (Nat.two_pow_pos e), ← pow_add, ← he]
    exact Nat.log2_self_le hn
  have hulp : 2 ^ 1 ≤ 2 ^ e := Nat.pow_le_pow_right (by decide) (by omega)
  have hfloor : 2 ^ 53 ≤ n / 2 ^ e * 2 ^ e := by
    calc 2 ^ 53 = 2 ^ 52 * 2 ^ 1 := by rw [← pow_add]
      _ ≤ n / 2 ^ e * 2 ^ e := Nat.mul_le_mul hdiv hulp
  have hstep : n / 2 ^ e * 2 ^ e ≤ (n / 2 ^ e + 1) * 2 ^ e :=
    Nat.mul_le_mul_right _ (Nat.le_succ _)
  have hexp : n.log2 - 52 = e := by omega
  rw [roundToDouble, hexp]
  show 2 ^ 53 ≤ if _ then _ else _
  split_ifs
  · exact hfloor.trans hstep
  · exact hfloor

/-- Integers below `2 ^ 53` are numbers, and no other integer is rounded to one of them. -/
theorem toNumber_eq_finite_iff {n k : ℕ} (hk : k < 2 ^ 53) :
    toNumber n = .finite k ↔ n = k := by
  have hoverflow : 2 ^ 53 ≤ overflow := by
    rw [overflow]
    apply Nat.pow_le_pow_right
    · decide
    · decide
  have hsign : (n : ℤ).sign * roundToDouble n = roundToDouble n := by
    rcases Nat.eq_zero_or_pos n with rfl | hpos
    · rfl
    · rw [Int.sign_eq_one_of_pos (Int.natCast_pos.mpr hpos), one_mul]
  rw [toNumber, Int.natAbs_natCast, hsign]
  by_cases hn : n < 2 ^ 53
  · rw [roundToDouble_of_lt hn, if_pos (hn.trans_le hoverflow)]
    simp
  · have hle := le_roundToDouble (Nat.le_of_not_lt hn)
    constructor
    · intro h
      split_ifs at h
      · rw [IntegerNumber.finite.injEq, Nat.cast_inj] at h
        omega
    · intro h
      omega

end Js

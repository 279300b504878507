import Calculator.Proofs.Rounding
import Calculator.Proofs.Signs

/-! The exact values of floating-point numbers. A finite number is its sign and a point of
`floatGrid`, which its bit pattern counts; a negation turns the sign and nothing else. -/
namespace Calculator.Number

open Float.Model (Format UnpackedFloat)
open Float.Model.UnpackedFloat

/-- The exact value of a binary fraction. -/
def Binary.value (b : Binary) : ℚ := (if b.negative then -1 else 1) * (b.mantissa * 2 ^ b.exponent)

/-- The exact value of a finite number. -/
def exact (x : Float) : ℚ := (Binary.ofFloat x).value

theorem toNat_unpackExponent (b : BitVec 64) :
    (@unpackExponent .binary64 b).toNat = b.toNat % 2 ^ 63 / 2 ^ 52 := by
  change (b.extractLsb 62 52).toNat = _
  rw [BitVec.extractLsb_toNat, Nat.shiftRight_eq_div_pow]
  exact (Nat.mod_mul_right_div_self ..).symm

theorem toNat_unpackMantissa (b : BitVec 64) :
    (@unpackMantissa .binary64 b).toNat = b.toNat % 2 ^ 52 := by
  change (b.extractLsb 51 0).toNat = _
  rw [BitVec.extractLsb_toNat]
  rfl

theorem toNat_unpackSign (b : BitVec 64) :
    (@unpackSign .binary64 b).toNat = b.toNat / 2 ^ 63 := by
  change (b.extractLsb 63 63).toNat = _
  rw [BitVec.extractLsb_toNat, Nat.shiftRight_eq_div_pow]
  have := b.isLt
  omega

theorem ofBitVec_unpackSign (b : BitVec 64) :
    (Sign.ofBitVec (@unpackSign .binary64 b) == .negative) = decide (2 ^ 63 ≤ b.toNat) := by
  have sign := toNat_unpackSign b
  by_cases negative : 2 ^ 63 ≤ b.toNat
  · have other : @unpackSign .binary64 b ≠ 0#1 := by
      intro zero
      rw [zero] at sign
      change 0 = _ at sign
      omega
    rw [Sign.ofBitVec, if_neg other, decide_eq_true negative]
    rfl
  · have zero : @unpackSign .binary64 b = 0#1 := by
      apply BitVec.eq_of_toNat_eq
      rw [sign]
      change _ = 0
      omega
    rw [Sign.ofBitVec, if_pos zero, decide_eq_false negative]
    rfl

theorem unpackExponent_eq_ones_iff (b : BitVec 64) :
    @unpackExponent .binary64 b = -1#_ ↔ b.toNat % 2 ^ 63 / 2 ^ 52 = 2047 := by
  rw [← BitVec.toNat_inj, toNat_unpackExponent]
  rfl

theorem unpackExponent_eq_zero_iff (b : BitVec 64) :
    @unpackExponent .binary64 b = 0#_ ↔ b.toNat % 2 ^ 63 / 2 ^ 52 = 0 := by
  rw [← BitVec.toNat_inj, toNat_unpackExponent]
  rfl

theorem unpackMantissa_eq_zero_iff (b : BitVec 64) :
    @unpackMantissa .binary64 b = 0#_ ↔ b.toNat % 2 ^ 52 = 0 := by
  rw [← BitVec.toNat_inj, toNat_unpackMantissa]
  rfl

/-- A normal number has a leading bit that is not stored. -/
theorem toNat_leading_append (b : BitVec 64) :
    (1#1 ++ @unpackMantissa .binary64 b).toNat = 2 ^ 52 + b.toNat % 2 ^ 52 := by
  rw [BitVec.toNat_append, ← toNat_unpackMantissa]
  change 2 ^ 52 ||| _ = _
  rw [Nat.or_comm, Nat.or_two_pow_eq_add_of_lt (BitVec.isLt _), Nat.add_comm]

/-- The bit pattern of infinity is the first one, sign apart, that is not of a finite number. -/
theorem isFinite_iff {x : Float} : x.isFinite ↔ x.toBits.toNat % 2 ^ 63 < 2047 * 2 ^ 52 := by
  have field := unpackExponent_eq_ones_iff x.toBits.toBitVec
  rw [UInt64.toNat_toBitVec] at field
  change (unpack .binary64 x.toBits.toBitVec).isFinite = true ↔ _
  have := x.toBits.toNat_lt
  unfold unpack
  dsimp only
  split
  · rename_i ones
    have := field.1 ones
    split <;> simp only [UnpackedFloat.isFinite, Bool.false_eq_true, false_iff] <;> omega
  · rename_i other
    have := mt field.2 other
    split
    · split <;> simp only [UnpackedFloat.isFinite, true_iff] <;> omega
    · simp only [UnpackedFloat.isFinite, true_iff]
      omega

/-- The parts of an unpacked number that is finite. -/
def Binary.ofUnpacked : UnpackedFloat → Binary
  | .zero s => ⟨s == .negative, 0, -1074⟩
  | .finite s mantissa exponent _ => ⟨s == .negative, mantissa, exponent⟩
  | .infinity _ | .notANumber => ⟨false, 0, 0⟩

theorem ofFloat_eq (x : Float) : Binary.ofFloat x =
    { negative := decide (2 ^ 63 ≤ x.toBits.toNat)
      mantissa := if x.toBits.toNat % 2 ^ 63 / 2 ^ 52 = 0 then x.toBits.toNat % 2 ^ 52
        else 2 ^ 52 + x.toBits.toNat % 2 ^ 52
      exponent := (max (x.toBits.toNat % 2 ^ 63 / 2 ^ 52) 1 : ℕ) - 1075 } := by
  have field := Nat.mod_mul_right_div_self x.toBits.toNat (2 ^ 52) (2 ^ 11)
  rw [show (2 : ℕ) ^ 52 * 2 ^ 11 = 2 ^ 63 by norm_num] at field
  rw [field]
  rfl

theorem ofUnpacked_unpack {x : Float} (h : x.isFinite) :
    Binary.ofUnpacked x.toModel.unpack = Binary.ofFloat x := by
  have ones := unpackExponent_eq_ones_iff x.toBits.toBitVec
  have zeros := unpackExponent_eq_zero_iff x.toBits.toBitVec
  have noFraction := unpackMantissa_eq_zero_iff x.toBits.toBitVec
  have fraction := toNat_unpackMantissa x.toBits.toBitVec
  have leading := toNat_leading_append x.toBits.toBitVec
  have field := toNat_unpackExponent x.toBits.toBitVec
  have sign := ofBitVec_unpackSign x.toBits.toBitVec
  have finite := isFinite_iff.1 h
  rw [UInt64.toNat_toBitVec] at ones zeros noFraction fraction leading field sign
  rw [ofFloat_eq]
  change Binary.ofUnpacked (unpack .binary64 x.toBits.toBitVec) = _
  unfold unpack
  dsimp only
  split
  · rename_i infinite
    have := ones.1 infinite
    omega
  · split
    · rename_i subnormal
      rw [zeros] at subnormal
      split
      · rename_i zero
        rw [noFraction] at zero
        simp only [Binary.ofUnpacked, sign, subnormal, zero]
        rfl
      · simp only [Binary.ofUnpacked, sign, subnormal, fraction, field]
        rfl
    · rename_i normal
      rw [zeros] at normal
      have place : max (x.toBits.toNat % 2 ^ 63 / 2 ^ 52) 1 = x.toBits.toNat % 2 ^ 63 / 2 ^ 52 := by
        omega
      simp only [Binary.ofUnpacked, sign, field, normal, leading, if_false, place]
      rfl

theorem neg_neg_float (x : Float) : -(-x) = x := by
  apply eq_of_unpack_eq
  rw [unpack_neg, unpack_neg]
  cases x.toModel.unpack with
  | notANumber => rfl
  | infinity s | zero s | finite s m e pos => cases s <;> rfl

/-- A negation turns the sign and nothing else. -/
theorem ofFloat_neg {x : Float} (h : x.isFinite) :
    Binary.ofFloat (-x) = { Binary.ofFloat x with negative := !(Binary.ofFloat x).negative } := by
  have finite : x.toModel.unpack.isFinite := h
  rw [← ofUnpacked_unpack h, ← ofUnpacked_unpack (x := -x) (by rwa [isFinite_neg]), unpack_neg]
  generalize x.toModel.unpack = u at finite
  cases u with
  | zero s | finite s m e pos => cases s <;> rfl
  | infinity s | notANumber => cases finite

theorem isFinite_abs (x : Float) : x.abs.isFinite = x.isFinite := by
  change x.abs.toModel.unpack.isFinite = x.toModel.unpack.isFinite
  rw [unpack_abs]
  cases x.toModel.unpack <;> rfl

theorem ofFloat_abs {x : Float} (h : x.isFinite) :
    Binary.ofFloat x.abs = { Binary.ofFloat x with negative := false } := by
  have finite : x.toModel.unpack.isFinite := h
  rw [← ofUnpacked_unpack h, ← ofUnpacked_unpack (x := x.abs) (by rwa [isFinite_abs]), unpack_abs]
  generalize x.toModel.unpack = u at finite
  cases u with
  | zero s | finite s m e pos => rfl
  | infinity s | notANumber => cases finite

theorem exact_neg {x : Float} (h : x.isFinite) : exact (-x) = -exact x := by
  rw [exact, exact, ofFloat_neg h, Binary.value, Binary.value]
  cases (Binary.ofFloat x).negative <;> simp

theorem exact_abs {x : Float} (h : x.isFinite) : exact x.abs = |exact x| := by
  have size : (0 : ℚ) ≤ (Binary.ofFloat x).mantissa * 2 ^ (Binary.ofFloat x).exponent := by
    positivity
  rw [exact, exact, ofFloat_abs h, Binary.value, Binary.value, abs_mul, abs_of_nonneg size]
  cases (Binary.ofFloat x).negative <;> simp

theorem beq_zero_iff_exact {x : Float} (h : x.isFinite) : (x == 0.0) ↔ exact x = 0 := by
  have finite : x.toModel.unpack.isFinite := h
  rw [beq_zero_iff, exact, ← ofUnpacked_unpack h]
  generalize x.toModel.unpack = u at finite
  cases u with
  | zero s => simp [Binary.ofUnpacked, Binary.value]
  | finite s m e pos =>
    have size : (m * 2 ^ e : ℚ) ≠ 0 := by positivity
    cases s <;> simpa [Binary.ofUnpacked, Binary.value] using size
  | infinity s | notANumber => cases finite

/-- The `n`-th number that is not negative. The one after the greatest finite number is infinity. -/
def nthFloat (n : ℕ) : Float := Float.ofBits (UInt64.ofNat n)

/-- How many finite numbers are not negative. -/
def finiteCount : ℕ := 2047 * 2 ^ 52

theorem nearest_eq (num den : ℕ) :
    nearest num den = nthFloat (min (nearestBits num den) finiteCount) := rfl

theorem infinity_eq : infinity = nthFloat finiteCount := rfl

theorem toBits_nthFloat {n : ℕ} (le : n ≤ finiteCount) : (nthFloat n).toBits.toNat = n := by
  rw [finiteCount] at le
  have pattern : (UInt64.ofNat n).toBitVec.toNat = n := by
    rw [UInt64.toNat_toBitVec, UInt64.toNat_ofNat']
    omega
  have number : @isNaNBits .binary64 (UInt64.ofNat n).toBitVec = false := by
    rw [isNaNBits, decide_eq_false_iff_not, unpackExponent_eq_ones_iff, ne_eq,
      unpackMantissa_eq_zero_iff, pattern]
    omega
  have same := @pack_unpack .binary64 (UInt64.ofNat n).toBitVec
  rw [number, if_neg Bool.false_ne_true] at same
  change ((unpack .binary64 (UInt64.ofNat n).toBitVec).pack .binary64).toNat = n
  rw [same, pattern]

theorem isFinite_nthFloat {n : ℕ} (le : n ≤ finiteCount) :
    (nthFloat n).isFinite ↔ n < finiteCount := by
  rw [isFinite_iff, toBits_nthFloat le]
  rw [finiteCount] at *
  omega

theorem ofFloat_of_toBits_lt {x : Float} (lt : x.toBits.toNat < 2 ^ 63) :
    (Binary.ofFloat x).negative = false ∧ exact x = floatGrid x.toBits.toNat := by
  rw [exact, ofFloat_eq, Binary.value, floatGrid, Nat.mod_eq_of_lt lt]
  generalize x.toBits.toNat = n at *
  have positive : decide (2 ^ 63 ≤ n) = false := decide_eq_false (Nat.not_le.2 lt)
  have mantissa : (if n / 2 ^ 52 = 0 then n % 2 ^ 52 else 2 ^ 52 + n % 2 ^ 52) =
      n - (n / 2 ^ 52 - 1) * 2 ^ 52 := by
    split <;> omega
  have exponent : ((max (n / 2 ^ 52) 1 : ℕ) : ℤ) - 1075 = ((n / 2 ^ 52 - 1 : ℕ) : ℤ) - 1074 := by
    omega
  refine ⟨positive, ?_⟩
  simp only [positive, mantissa, exponent, Bool.false_eq_true, if_false, one_mul]

theorem exact_nthFloat {n : ℕ} (le : n ≤ finiteCount) : exact (nthFloat n) = floatGrid n := by
  have bits := toBits_nthFloat le
  rw [finiteCount] at le
  rw [(ofFloat_of_toBits_lt (by omega)).2, bits]

/-- A finite number without a sign has its place among the others. -/
theorem exists_nthFloat {x : Float} (h : x.isFinite)
    (positive : (Binary.ofFloat x).negative = false) :
    ∃ n < finiteCount, x = nthFloat n := by
  rw [ofFloat_eq] at positive
  have finite := isFinite_iff.1 h
  have small := of_decide_eq_false positive
  refine ⟨x.toBits.toNat, by rw [finiteCount]; omega, ?_⟩
  rw [nthFloat, UInt64.ofNat_toNat, Float.ofBits_toBits]

/-- The number with this sign and absolute value. -/
def signedFloat (negative : Bool) (y : Float) : Float := if negative then -y else y

theorem isFinite_signedFloat (negative : Bool) (y : Float) :
    (signedFloat negative y).isFinite = y.isFinite := by
  cases negative with
  | true => exact isFinite_neg y
  | false => rfl

theorem exact_signedFloat {n : ℕ} (lt : n < finiteCount) (negative : Bool) :
    exact (signedFloat negative (nthFloat n)) = (if negative then -1 else 1) * floatGrid n := by
  have finite := (isFinite_nthFloat lt.le).2 lt
  cases negative with
  | true => simp [signedFloat, exact_neg finite, exact_nthFloat lt.le]
  | false => simp [signedFloat, exact_nthFloat lt.le]

/-- A finite number is one without a sign or the negation of one. -/
theorem exists_abs {x : Float} (h : x.isFinite) :
    ∃ n < finiteCount, x = signedFloat (Binary.ofFloat x).negative (nthFloat n) ∧
      |exact x| = floatGrid n := by
  obtain ⟨n, lt, eq⟩ :
      ∃ n < finiteCount, x = signedFloat (Binary.ofFloat x).negative (nthFloat n) := by
    cases negative : (Binary.ofFloat x).negative with
    | false => exact exists_nthFloat h negative
    | true =>
      obtain ⟨n, lt, eq⟩ := exists_nthFloat (x := -x) (by rwa [isFinite_neg])
        (by rw [ofFloat_neg h, negative]; rfl)
      exact ⟨n, lt, by rw [signedFloat, if_pos rfl, ← eq, neg_neg_float]⟩
  refine ⟨n, lt, eq, ?_⟩
  rw [eq, exact_signedFloat lt, abs_mul, abs_of_nonneg (floatGrid_nonneg n)]
  split <;> simp

end Calculator.Number

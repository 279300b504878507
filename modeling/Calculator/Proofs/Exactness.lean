import Calculator.Proofs.Floats

/-! Sums and products that are not rounded, and comparisons. A mantissa is shifted until its last
place is the one that its size asks for; what is shifted out is zero where the result is a
floating-point number itself. So a sum or product that a number represents is that number, but for
the sign of zero. Finite numbers have the order of their exact values. -/
namespace Calculator.Number

open Float.Model (Format UnpackedFloat totalExponent)
open Float.Model.UnpackedFloat

/-- Finite numbers of one value differ in the sign of zero only. -/
theorem alike_of_exact_eq {x y : Float} (hx : x.isFinite) (hy : y.isFinite)
    (h : exact x = exact y) : Alike x y := by
  by_cases zero : exact y = 0
  · exact .inr ⟨(beq_zero_iff_exact hx).2 (h.trans zero), (beq_zero_iff_exact hy).2 zero⟩
  · obtain ⟨n, lt, eq, size⟩ := exists_abs hx
    obtain ⟨m, lt', eq', size'⟩ := exists_abs hy
    have same : n = m := strictMono_floatGrid.injective (by rw [← size, ← size', h])
    have pos : 0 < floatGrid m := size' ▸ abs_pos.2 zero
    have sign : (Binary.ofFloat x).negative = (Binary.ofFloat y).negative := by
      rw [eq, eq', exact_signedFloat lt, exact_signedFloat lt', same] at h
      generalize (Binary.ofFloat x).negative = a, (Binary.ofFloat y).negative = b at h ⊢
      cases a <;> cases b <;>
        simp only [Bool.false_eq_true, if_false, if_true, reduceCtorEq] at h ⊢ <;> linarith
    left
    rw [eq, eq', same, sign]

theorem Alike.exact_eq {x y : Float} (h : Alike x y) (finite : y.isFinite) :
    exact x = exact y := by
  rcases h with rfl | ⟨hx, hy⟩
  · rfl
  · have finite' : x.isFinite := by
      obtain ⟨s, zero⟩ := beq_zero_iff.1 hx
      change x.toModel.unpack.isFinite
      rw [zero]
      rfl
    rw [(beq_zero_iff_exact finite').1 hx, (beq_zero_iff_exact finite).1 hy]

/-- A mantissa of fifty-three places at most, of which the first is used unless the exponent is the
least one. -/
structure Canonical (m : ℕ) (e : ℤ) : Prop where
  lt : m < 2 ^ 53
  least : -1074 ≤ e
  leading : 2 ^ 52 ≤ m ∨ e = -1074

theorem canonical_ofFloat (x : Float) :
    Canonical (Binary.ofFloat x).mantissa (Binary.ofFloat x).exponent := by
  rw [ofFloat_eq]
  constructor
  · dsimp only
    split <;> omega
  · dsimp only
    omega
  · dsimp only
    split <;> omega

/-- A finite number is a zero or has a mantissa. -/
inductive Unpacks (x : Float) : Prop
  | zero (s : Sign) (unpacked : x.toModel.unpack = .zero s) (value : exact x = 0)
  | finite (s : Sign) (m : ℕ) (e : ℤ) (pos : 0 < m)
      (unpacked : x.toModel.unpack = .finite s m e pos) (canonical : Canonical m e)
      (value : exact x = s.apply m * 2 ^ e)

theorem unpacks {x : Float} (h : x.isFinite) : Unpacks x := by
  have parts := ofUnpacked_unpack h
  have finite : x.toModel.unpack.isFinite := h
  cases unpacked : x.toModel.unpack with
  | zero s =>
    rw [unpacked] at parts
    exact .zero s unpacked (by rw [exact, ← parts]; simp [Binary.ofUnpacked, Binary.value])
  | finite s m e pos =>
    rw [unpacked] at parts
    refine .finite s m e pos unpacked ?_ ?_
    · have canonical := canonical_ofFloat x
      rw [← parts] at canonical
      exact canonical
    · rw [exact, ← parts]
      cases s <;> simp [Binary.ofUnpacked, Binary.value, Sign.apply]
  | infinity s | notANumber =>
    rw [unpacked] at finite
    cases finite

theorem targetExponent_eq (t : ℤ) : Format.binary64.targetExponent t = max (t - 53) (-1074) := rfl

theorem Canonical.targetExponent {m : ℕ} {e : ℤ} (h : Canonical m e) (pos : 0 < m) :
    Format.binary64.targetExponent (totalExponent m e) = e := by
  have lt := (Nat.log2_lt pos.ne').2 h.lt
  have least := h.least
  rw [targetExponent_eq, totalExponent]
  rcases h.leading with leading | rfl
  · have := (Nat.le_log2 pos.ne').2 leading
    omega
  · omega

theorem totalExponent_mul_two_pow {m : ℕ} (pos : 0 < m) (k : ℕ) (e : ℤ) :
    totalExponent (m * 2 ^ k) (e - k) = totalExponent m e := by
  have places : (m * 2 ^ k).log2 = m.log2 + k := by
    induction k with
    | zero => simp
    | succ k ih =>
      rw [pow_succ', mul_left_comm, Nat.log2_two_mul (by positivity), ih, Nat.add_assoc]
  rw [totalExponent, totalExponent, places]
  push_cast
  ring

theorem shiftRight_exact (m k : ℕ) :
    (ExtendedMantissa.mk (m * 2 ^ k) false false) >>> k = ⟨m, false, false⟩ := by
  change Nat.repeat ExtendedMantissa.shiftRightOne k _ = _
  induction k generalizing m with
  | zero => simp [Nat.repeat]
  | succ k ih =>
    rw [pow_succ', ← mul_assoc, Nat.repeat, ih]
    simp [ExtendedMantissa.shiftRightOne]

theorem shiftToTargetExponent_exact {m : ℕ} {e : ℤ} (h : Canonical m e) (pos : 0 < m) (k : ℕ) :
    shiftToTargetExponent .binary64 (m * 2 ^ k) (e - k) .exact = (⟨m, false, false⟩, e) := by
  have amount : (e - (e - (k : ℤ))).toNat = k := by omega
  rw [shiftToTargetExponent, totalExponent_mul_two_pow pos, h.targetExponent pos, shiftToExponent]
  simp only [amount, ExtendedMantissa.ofMantissaAndAccuracy, shiftRight_exact, sub_add_cancel]

/-- Zeros after the last place are dropped. -/
theorem roundWithAccuracy_exact {m : ℕ} {e : ℤ} (h : Canonical m e) (pos : 0 < m) (s : Sign)
    (k : ℕ) : roundWithAccuracy .binary64 s (m * 2 ^ k) (e - k) .exact = .finite s m e pos := by
  have second := shiftToTargetExponent_exact h pos 0
  rw [pow_zero, mul_one, Nat.cast_zero, sub_zero] at second
  simp only [roundWithAccuracy, shiftToTargetExponent_exact h pos,
    ExtendedMantissa.roundedMantissa, ExtendedMantissa.accuracy, Accuracy.roundToNearestEven,
    second, pos.ne', dif_neg, not_false_eq_true]

/-- Two mantissas of one value: the one with the greater exponent is the shorter. -/
theorem eq_mul_two_pow {m m' : ℕ} {e e' : ℤ} (same : (m' * 2 ^ e' : ℚ) = m * 2 ^ e)
    (le : e' ≤ e) : m' = m * 2 ^ (e - e').toNat := by
  have unit : (2 : ℚ) ^ e' ≠ 0 := by positivity
  have exponent : (2 : ℚ) ^ e = 2 ^ (e - e').toNat * 2 ^ e' := by
    rw [← zpow_natCast, ← zpow_add₀ two_ne_zero]
    congr 1
    omega
  rw [exponent, ← mul_assoc] at same
  exact_mod_cast mul_right_cancel₀ unit same

theorem round_exact {m m' : ℕ} {e e' : ℤ} (h : Canonical m e) (pos : 0 < m) (s : Sign)
    (same : (m' * 2 ^ e' : ℚ) = m * 2 ^ e) :
    UnpackedFloat.round .binary64 s m' e' = .finite s m e pos := by
  rcases le_total e' e with le | ge
  · obtain ⟨k, rfl⟩ : ∃ k : ℕ, e' = e - k := ⟨(e - e').toNat, by omega⟩
    obtain rfl : m' = m * 2 ^ k := by
      have eq := eq_mul_two_pow same le
      rwa [show (e - (e - (k : ℤ))).toNat = k by omega] at eq
    have none : (e - k - e).toNat = 0 := by omega
    rw [UnpackedFloat.round, totalExponent_mul_two_pow pos, h.targetExponent pos]
    simp only [decreaseExponent, none, Nat.shiftLeft_zero, Nat.cast_zero, sub_zero,
      roundWithAccuracy_exact h pos]
  · obtain ⟨k, rfl⟩ : ∃ k : ℕ, e' = e + k := ⟨(e' - e).toNat, by omega⟩
    obtain rfl : m = m' * 2 ^ k := by
      have eq := eq_mul_two_pow same.symm ge
      rwa [show (e + (k : ℤ) - e).toNat = k by omega] at eq
    have pos' : 0 < m' := Nat.pos_of_mul_pos_right pos
    have total := totalExponent_mul_two_pow pos' k (e + k)
    rw [add_sub_cancel_right] at total
    have whole := roundWithAccuracy_exact h pos s 0
    rw [pow_zero, mul_one, Nat.cast_zero, sub_zero] at whole
    rw [UnpackedFloat.round, ← total, h.targetExponent pos]
    simp only [decreaseExponent, add_sub_cancel_left, Int.toNat_natCast, add_sub_cancel_right,
      Nat.shiftLeft_eq, whole]

theorem normalize_exact {m : ℕ} {n e e' : ℤ} {s : Sign} (h : Canonical m e) (pos : 0 < m)
    (same : (n * 2 ^ e' : ℚ) = s.apply m * 2 ^ e) (zeroSign : Sign) :
    UnpackedFloat.normalize .binary64 n e' zeroSign = .finite s m e pos := by
  have unit : (0 : ℚ) < 2 ^ e' := by positivity
  have size : (0 : ℚ) < m * 2 ^ e := by positivity
  cases s with
  | positive =>
    have value : (n * 2 ^ e' : ℚ) = m * 2 ^ e := same
    have sign : 0 < n := by
      have : (0 : ℚ) < n := (mul_pos_iff_of_pos_right unit).1 (value ▸ size)
      exact_mod_cast this
    obtain ⟨k, rfl⟩ := Int.eq_ofNat_of_zero_le sign.le
    rw [UnpackedFloat.normalize, show compare (k : ℤ) 0 = .gt from Int.compare_eq_gt.2 sign]
    exact round_exact h pos .positive (by exact_mod_cast value)
  | negative =>
    have value : (((-n : ℤ) : ℚ) * 2 ^ e' : ℚ) = m * 2 ^ e := by
      rw [Int.cast_neg, neg_mul, same, Sign.apply]
      push_cast
      ring
    have sign : 0 < -n := by
      have : (0 : ℚ) < (-n : ℤ) := (mul_pos_iff_of_pos_right unit).1 (value ▸ size)
      exact_mod_cast this
    obtain ⟨k, eq⟩ := Int.eq_ofNat_of_zero_le sign.le
    rw [UnpackedFloat.normalize, show compare n 0 = .lt from Int.compare_eq_lt.2 (by omega)]
    refine round_exact h pos .negative ?_
    rw [eq] at value ⊢
    exact_mod_cast value

theorem ofModel_pack_of_eq {u : UnpackedFloat} {x : Float} (h : u = x.toModel.unpack) :
    Float.ofModel (.pack u) = x := by
  rw [h]
  exact eq_of_unpack_eq (unpack_pack_unpack x)

/-- A smaller exponent takes nothing from a mantissa. -/
theorem apply_decreaseExponent (s : Sign) (m : ℕ) {e e' : ℤ} (le : e' ≤ e) :
    (s.apply (decreaseExponent m e e').1 : ℚ) * 2 ^ e' = s.apply m * 2 ^ e := by
  have exponent : (2 : ℚ) ^ e = 2 ^ (e - e').toNat * 2 ^ e' := by
    rw [← zpow_natCast, ← zpow_add₀ two_ne_zero]
    congr 1
    omega
  rw [exponent, ← mul_assoc]
  cases s <;> simp [decreaseExponent, Nat.shiftLeft_eq, Sign.apply]

/-- A sum that is a floating-point number is not rounded. -/
theorem add_of_exact {x y z : Float} (hx : x.isFinite) (hy : y.isFinite) (hz : z.isFinite)
    (h : exact z = exact x + exact y) : Alike (x + y) z := by
  have sum : x + y = .ofModel (.pack (add .binary64 x.toModel.unpack y.toModel.unpack)) := rfl
  cases unpacks hx with
  | zero s ux vx =>
    cases unpacks hy with
    | zero t uy vy =>
      rw [vx, vy, add_zero] at h
      refine .inr ⟨?_, (beq_zero_iff_exact hz).2 h⟩
      rw [sum, ux, uy, add]
      split <;> exact beq_zero_iff.2 ⟨_, unpack_packedZero⟩
    | finite t n f pos' uy canonical' vy =>
      rw [vx, zero_add] at h
      have same : x + y = y := by
        rw [sum, ux, uy]
        exact ofModel_pack_of_eq uy.symm
      rw [same]
      exact alike_of_exact_eq hy hz h.symm
  | finite s m e pos ux canonical vx =>
    cases unpacks hy with
    | zero t uy vy =>
      rw [vy, add_zero] at h
      have same : x + y = x := by
        rw [sum, ux, uy]
        exact ofModel_pack_of_eq ux.symm
      rw [same]
      exact alike_of_exact_eq hx hz h.symm
    | finite t n f pos' uy canonical' vy =>
      have total : ((s.apply (decreaseExponent m e (min e f)).1 +
          t.apply (decreaseExponent n f (min e f)).1 : ℤ) : ℚ) * 2 ^ min e f = exact z := by
        rw [h, vx, vy, Int.cast_add, add_mul, apply_decreaseExponent s m (min_le_left e f),
          apply_decreaseExponent t n (min_le_right e f)]
      rw [sum, ux, uy, add]
      dsimp only
      cases unpacks hz with
      | zero r uz vz =>
        have none : s.apply (decreaseExponent m e (min e f)).1 +
            t.apply (decreaseExponent n f (min e f)).1 = 0 := by
          rw [vz] at total
          exact_mod_cast (mul_eq_zero.1 total).resolve_right (by positivity)
        refine .inr ⟨?_, (beq_zero_iff_exact hz).2 vz⟩
        rw [none]
        exact beq_zero_iff.2 ⟨.positive, unpack_packedZero⟩
      | finite r l g pos'' uz canonical'' vz =>
        left
        rw [normalize_exact canonical'' pos'' (total.trans vz)]
        exact ofModel_pack_of_eq uz.symm

theorem apply_neg_sign (s : Sign) (n : ℤ) : (-s).apply n = -s.apply n := by
  cases s with
  | negative => exact (neg_neg n).symm
  | positive => rfl

theorem unpacked_sub_eq (u v : UnpackedFloat) : sub .binary64 u v = add .binary64 u v.neg := by
  cases u <;> cases v
  case finite.finite => simp only [sub, add, neg, apply_neg_sign, sub_eq_add_neg]
  all_goals rfl

theorem sub_eq_add_neg_float (x y : Float) : x - y = x + -y := by
  change Float.ofModel (.pack (sub .binary64 x.toModel.unpack y.toModel.unpack)) =
    .ofModel (.pack (add .binary64 x.toModel.unpack (-y).toModel.unpack))
  rw [unpack_neg, unpacked_sub_eq]

theorem sub_of_exact {x y z : Float} (hx : x.isFinite) (hy : y.isFinite) (hz : z.isFinite)
    (h : exact z = exact x - exact y) : Alike (x - y) z := by
  rw [sub_eq_add_neg_float]
  refine add_of_exact hx (by rwa [isFinite_neg]) hz ?_
  rw [h, exact_neg hy, sub_eq_add_neg]

theorem apply_mul_apply (s t : Sign) (m n : ℤ) :
    s.apply m * t.apply n = (s * t).apply (m * n) := by
  cases s <;> cases t
  · exact neg_mul_neg m n
  · exact neg_mul m n
  · exact mul_neg m n
  · rfl

/-- The exponents of two factors do not add up to more than that of their product. -/
theorem Canonical.add_le {m n l : ℕ} {e f g : ℤ} (hm : Canonical m e) (hn : Canonical n f)
    (hl : Canonical l g) (pos : 0 < m) (pos' : 0 < n) (same : (m * n : ℕ) * (2 : ℚ) ^ (e + f) =
      l * 2 ^ g) : e + f ≤ g := by
  by_contra! lt
  have shorter := eq_mul_two_pow same.symm lt.le
  have shift : (2 : ℕ) ^ 1 ≤ 2 ^ (e + f - g).toNat := Nat.pow_le_pow_right two_pos (by omega)
  have small : m * n < 2 ^ 52 := by
    have := Nat.mul_le_mul_left (m * n) shift
    have := hl.lt
    omega
  have hm' : e = -1074 := hm.leading.resolve_left fun large => by
    have := Nat.le_mul_of_pos_right m pos'
    omega
  have hn' : f = -1074 := hn.leading.resolve_left fun large => by
    have := Nat.le_mul_of_pos_left n pos
    omega
  have := hl.least
  omega

theorem apply_mul_ne_zero (s : Sign) {m : ℕ} (pos : 0 < m) (e : ℤ) :
    (s.apply m * 2 ^ e : ℚ) ≠ 0 := by
  have size : (m : ℚ) * 2 ^ e ≠ 0 := by positivity
  cases s with
  | positive => exact size
  | negative => simpa [Sign.apply] using size

/-- Two mantissas with signs that have one value have the same sign and size. -/
theorem eq_and_eq_of_apply {s r : Sign} {m l : ℕ} {e g : ℤ} (pos : 0 < m) (pos' : 0 < l)
    (same : (s.apply m * 2 ^ e : ℚ) = r.apply l * 2 ^ g) :
    s = r ∧ (m * 2 ^ e : ℚ) = l * 2 ^ g := by
  have size : (0 : ℚ) < m * 2 ^ e := by positivity
  have size' : (0 : ℚ) < l * 2 ^ g := by positivity
  cases s <;> cases r <;> simp only [Sign.apply, Int.cast_neg, Int.cast_natCast, neg_mul, true_and,
    reduceCtorEq, false_and] at same ⊢ <;> linarith

theorem roundWithAccuracy_product {m n l : ℕ} {e f g : ℤ} {s r : Sign} (hm : Canonical m e)
    (hn : Canonical n f) (hl : Canonical l g) (pos : 0 < m) (pos' : 0 < n) (pos'' : 0 < l)
    (same : (s.apply (m * n : ℕ) * 2 ^ (e + f) : ℚ) = r.apply l * 2 ^ g) :
    roundWithAccuracy .binary64 s (m * n) (e + f) .exact = .finite r l g pos'' := by
  obtain ⟨rfl, size⟩ := eq_and_eq_of_apply (Nat.mul_pos pos pos') pos'' same
  have le := hm.add_le hn hl pos pos' size
  obtain ⟨k, exponent⟩ : ∃ k : ℕ, e + f = g - k := ⟨(g - (e + f)).toNat, by omega⟩
  have mantissa : m * n = l * 2 ^ k := by
    have eq := eq_mul_two_pow size le
    rwa [show (g - (e + f)).toNat = k by omega] at eq
  rw [mantissa, exponent, roundWithAccuracy_exact hl pos'']

/-- A product that is a floating-point number is not rounded. -/
theorem mul_of_exact {x y z : Float} (hx : x.isFinite) (hy : y.isFinite) (hz : z.isFinite)
    (h : exact z = exact x * exact y) : Alike (x * y) z := by
  have product : x * y = .ofModel (.pack (mul .binary64 x.toModel.unpack y.toModel.unpack)) := rfl
  have zero (s : Sign) (unpacked : mul .binary64 x.toModel.unpack y.toModel.unpack = .zero s)
      (value : exact z = 0) : Alike (x * y) z := by
    refine .inr ⟨?_, (beq_zero_iff_exact hz).2 value⟩
    rw [product, unpacked]
    exact beq_zero_iff.2 ⟨s, unpack_packedZero⟩
  cases unpacks hx with
  | zero s ux vx =>
    rw [vx, zero_mul] at h
    cases unpacks hy with
    | zero t uy vy => exact zero (s * t) (by rw [ux, uy]; rfl) h
    | finite t n f pos' uy canonical' vy => exact zero (s * t) (by rw [ux, uy]; rfl) h
  | finite s m e pos ux canonical vx =>
    cases unpacks hy with
    | zero t uy vy =>
      rw [vy, mul_zero] at h
      exact zero (s * t) (by rw [ux, uy]; rfl) h
    | finite t n f pos' uy canonical' vy =>
      have value : exact z = (s * t).apply ((m * n : ℕ) : ℤ) * 2 ^ (e + f) := by
        rw [h, vx, vy, zpow_add₀ two_ne_zero, mul_mul_mul_comm, Nat.cast_mul, ← apply_mul_apply]
        push_cast
        ring
      cases unpacks hz with
      | zero r uz vz =>
        exact absurd (value.symm.trans vz) (apply_mul_ne_zero _ (Nat.mul_pos pos pos') _)
      | finite r l g pos'' uz canonical'' vz =>
        left
        rw [product, ux, uy, mul, roundWithAccuracy_product canonical canonical' canonical'' pos
          pos' pos'' (value.symm.trans vz)]
        exact ofModel_pack_of_eq uz.symm

/-- Of two mantissas the one with the greater exponent stands for the greater number. -/
theorem Canonical.lt_of_exponent_lt {m n : ℕ} {e f : ℤ} (hm : Canonical m e) (hn : Canonical n f)
    (lt : e < f) : (m * 2 ^ e : ℚ) < n * 2 ^ f := by
  have leading : 2 ^ 52 ≤ n := hn.leading.resolve_right fun least => by
    have := hm.least
    omega
  have below : (m : ℚ) < 2 ^ 53 := by exact_mod_cast hm.lt
  have above : (2 ^ 52 : ℚ) ≤ n := by exact_mod_cast leading
  calc (m * 2 ^ e : ℚ) < 2 ^ 53 * 2 ^ e := mul_lt_mul_of_pos_right below (by positivity)
    _ = 2 ^ 52 * 2 ^ (e + 1) := by
      rw [zpow_add_one₀ two_ne_zero]
      ring
    _ ≤ n * 2 ^ f :=
      mul_le_mul above (zpow_le_zpow_right₀ one_le_two lt) (by positivity) (by positivity)

/-- Exponents are compared first, then mantissas. -/
theorem compare_canonical {m n : ℕ} {e f : ℤ} (hm : Canonical m e) (hn : Canonical n f) :
    (compare e f).then (compare m n) = compare (m * 2 ^ e : ℚ) (n * 2 ^ f) := by
  rcases lt_trichotomy e f with lt | rfl | gt
  · rw [compare_lt_iff_lt.2 lt, compare_lt_iff_lt.2 (hm.lt_of_exponent_lt hn lt)]
    rfl
  · have unit : (0 : ℚ) < 2 ^ e := by positivity
    rw [compare_eq_iff_eq.2 rfl, Ordering.eq_then, ← cmp_eq_compare, ← cmp_eq_compare,
      cmp_mul_pos_right unit]
    exact (Nat.strictMono_cast.cmp_map_eq m n).symm
  · rw [compare_gt_iff_gt.2 gt, compare_gt_iff_gt.2 (hn.lt_of_exponent_lt hm gt)]
    rfl

theorem swap_compare (q r : ℚ) : (compare q r).swap = compare (-q) (-r) := by
  rw [← cmp_eq_compare, ← cmp_eq_compare, cmp_swap]
  exact (strictMono_id.neg.cmp_map_eq q r).symm

/-- Finite numbers are compared by their exact values. -/
theorem compare_unpack {x y : Float} (hx : x.isFinite) (hy : y.isFinite) :
    x.toModel.unpack.compare y.toModel.unpack = some (compare (exact x) (exact y)) := by
  cases unpacks hx with
  | zero s ux vx =>
    cases unpacks hy with
    | zero t uy vy =>
      rw [ux, uy, vx, vy, compare_eq_iff_eq.2 rfl]
      rfl
    | finite t n f pos' uy canonical' vy =>
      have size : (0 : ℚ) < n * 2 ^ f := by positivity
      rw [ux, uy, vx, vy]
      cases t <;> simp only [Sign.apply, Int.cast_neg, Int.cast_natCast, neg_mul]
      · rw [compare_gt_iff_gt.2 (neg_neg_of_pos size)]
        rfl
      · rw [compare_lt_iff_lt.2 size]
        rfl
  | finite s m e pos ux canonical vx =>
    have size : (0 : ℚ) < m * 2 ^ e := by positivity
    cases unpacks hy with
    | zero t uy vy =>
      rw [ux, uy, vx, vy]
      cases s <;> simp only [Sign.apply, Int.cast_neg, Int.cast_natCast, neg_mul]
      · rw [compare_lt_iff_lt.2 (neg_neg_of_pos size)]
        rfl
      · rw [compare_gt_iff_gt.2 size]
        rfl
    | finite t n f pos' uy canonical' vy =>
      have size' : (0 : ℚ) < n * 2 ^ f := by positivity
      rw [ux, uy, vx, vy]
      cases s <;> cases t <;> simp only [Sign.apply, Int.cast_neg, Int.cast_natCast, neg_mul]
      · rw [← swap_compare, ← compare_canonical canonical canonical']
        rfl
      · rw [compare_lt_iff_lt.2 (by linarith)]
        rfl
      · rw [compare_gt_iff_gt.2 (by linarith)]
        rfl
      · rw [← compare_canonical canonical canonical']
        rfl

theorem le_iff_exact_le {x y : Float} (hx : x.isFinite) (hy : y.isFinite) :
    x ≤ y ↔ exact x ≤ exact y := by
  change Float.le x y = true ↔ _
  rw [Float.le, decide_eq_true_eq]
  change x.toModel.unpack.le y.toModel.unpack = true ↔ _
  rw [Float.Model.UnpackedFloat.le, compare_unpack hx hy, Option.any_some,
    ← Ordering.ne_gt_iff_isLE]
  exact compare_le_iff_le

theorem lt_iff_exact_lt {x y : Float} (hx : x.isFinite) (hy : y.isFinite) :
    x < y ↔ exact x < exact y := by
  change Float.lt x y = true ↔ _
  rw [Float.lt, decide_eq_true_eq]
  change x.toModel.unpack.lt y.toModel.unpack = true ↔ _
  rw [Float.Model.UnpackedFloat.lt, compare_unpack hx hy, beq_iff_eq, Option.some_inj]
  exact compare_lt_iff_lt

end Calculator.Number

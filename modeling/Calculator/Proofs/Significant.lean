import Calculator.Proofs.Shown

/-! Rounding to significant digits. A positive rational is rounded to a multiple of a power of ten,
which follows from the exponent of its first digit. What is rounded to stays where it is when a
number near it is rounded again, though the first digit of that number may be another one. -/
namespace Calculator.Number

/-- `m` is the exponent of the first digit of `q`. -/
structure HasExponent (q : ℚ) (m : ℤ) : Prop where
  le : 10 ^ m ≤ q
  lt : q < 10 ^ (m + 1)

namespace HasExponent

variable {q r : ℚ} {m n : ℤ}

theorem pos (h : HasExponent q m) : 0 < q := lt_of_lt_of_le (by positivity) h.le

theorem mono (hq : HasExponent q m) (hr : HasExponent r n) (le : q ≤ r) : m ≤ n := by
  have power : (10 : ℚ) ^ m < 10 ^ (n + 1) := hq.le.trans_lt (le.trans_lt hr.lt)
  exact Int.lt_add_one_iff.1 ((zpow_lt_zpow_iff_right₀ (by norm_num)).1 power)

theorem unique (h : HasExponent q m) (h' : HasExponent q n) : m = n :=
  le_antisymm (h.mono h' le_rfl) (h'.mono h le_rfl)

end HasExponent

theorem exists_hasExponent {q : ℚ} (pos : 0 < q) : ∃ m, HasExponent q m := by
  obtain ⟨m, low, high⟩ := exists_mem_Ico_zpow pos (by norm_num : (1 : ℚ) < 10)
  exact ⟨m, low, high⟩

theorem exists_ten_zpow_eq {a b : ℤ} (le : a ≤ b) :
    ∃ j : ℕ, (j : ℤ) = b - a ∧ (10 : ℚ) ^ b = (10 ^ j : ℕ) * 10 ^ a := by
  refine ⟨(b - a).toNat, by omega, ?_⟩
  rw [Nat.cast_pow, Nat.cast_ofNat, ← zpow_natCast, ← zpow_add₀ (by norm_num)]
  congr 1
  omega

theorem ten_zpow_eq_sub_mul (m : ℤ) (j : ℕ) : (10 : ℚ) ^ m = 10 ^ (m - j) * 10 ^ j := by
  rw [zpow_sub₀ (by norm_num), zpow_natCast, div_mul_cancel₀ _ (by positivity)]

theorem add_le_of_mul_lt_mul {u : ℚ} (pos : 0 < u) {i j : ℕ} (lt : i * u < j * u) :
    i * u + u ≤ j * u := by
  have less : i < j := Nat.cast_lt.1 (lt_of_mul_lt_mul_right lt pos.le)
  rw [← add_one_mul]
  refine mul_le_mul_of_nonneg_right ?_ pos.le
  exact_mod_cast less

/-- A multiple of a unit that differs from a power of ten does so by the unit at least. -/
theorem add_le_ten_zpow {a b : ℤ} {n : ℕ} (le : a ≤ b) (lt : (n * 10 ^ a : ℚ) < 10 ^ b) :
    (n * 10 ^ a + 10 ^ a : ℚ) ≤ 10 ^ b := by
  obtain ⟨j, -, power⟩ := exists_ten_zpow_eq le
  rw [power] at lt ⊢
  exact add_le_of_mul_lt_mul (by positivity) lt

theorem ten_zpow_add_le {a b : ℤ} {n : ℕ} (le : a ≤ b) (lt : (10 ^ b : ℚ) < n * 10 ^ a) :
    (10 ^ b + 10 ^ a : ℚ) ≤ n * 10 ^ a := by
  obtain ⟨j, -, power⟩ := exists_ten_zpow_eq le
  rw [power] at lt ⊢
  exact add_le_of_mul_lt_mul (by positivity) lt

/-- What is half a unit away at most is rounded, from half a unit if the integer is even. -/
theorem roundsTo_of_abs_sub_le {q : ℚ} {n : ℕ} (le : |q - n| ≤ 1 / 2)
    (even : |q - n| = 1 / 2 → Even n) : RoundsTo (fun n => (n : ℚ)) q n := by
  obtain ⟨low, high⟩ := abs_le.1 le
  constructor
  · push_cast
    linarith
  · intro middle
    push_cast at middle
    refine even ?_
    rw [middle, show ((n + (n + 1)) / 2 - n : ℚ) = 1 / 2 by ring]
    norm_num
  · rintro k rfl
    push_cast at low ⊢
    linarith
  · rintro k rfl middle
    refine even ?_
    push_cast at middle ⊢
    rw [middle, show ((k + (k + 1)) / 2 - (k + 1) : ℚ) = -(1 / 2) by ring]
    norm_num

theorem roundsTo_of_abs_sub_lt {q : ℚ} {n : ℕ} (lt : |q - n| < 1 / 2) :
    RoundsTo (fun n => (n : ℚ)) q n :=
  roundsTo_of_abs_sub_le lt.le fun eq => absurd eq lt.ne

/-- Half way between two integers the even one is rounded to. -/
theorem RoundsTo.even_of_half {q : ℚ} {n : ℕ} (h : RoundsTo (fun n => (n : ℚ)) q n)
    (half : |q - n| = 1 / 2) : Even n := by
  rcases eq_or_eq_neg_of_abs_eq half with above | below
  · refine h.even_of_above ?_
    push_cast
    linarith
  · rcases Nat.eq_zero_or_pos n with rfl | pos
    · exact Even.zero
    · obtain ⟨k, rfl⟩ : ∃ k, n = k + 1 := ⟨n - 1, by omega⟩
      refine h.even_of_below k rfl ?_
      push_cast at below ⊢
      linarith

/-- What is no farther from the integer that a number is rounded to is rounded to it as well. -/
theorem RoundsTo.of_nearer {q y : ℚ} {n : ℕ} (nonneg : 0 ≤ q)
    (h : RoundsTo (fun n => (n : ℚ)) q n) (nearer : |y - n| ≤ |q - n|) :
    RoundsTo (fun n => (n : ℚ)) y n := by
  have near : |q - n| ≤ 1 / 2 := by
    rw [abs_sub_comm]
    exact h.abs_sub_le_half nonneg
  exact roundsTo_of_abs_sub_le (nearer.trans near) fun half =>
    h.even_of_half (le_antisymm near (half.symm.trans_le nearer))

theorem abs_div_sub {q u : ℚ} (pos : 0 < u) (n : ℚ) : |q / u - n| = |q - n * u| / u := by
  rw [← abs_of_pos pos, ← abs_div, abs_of_pos pos, sub_div, mul_div_cancel_right₀ n pos.ne']

/-- The number `q`, whose first digit has the exponent `m`, is rounded to `t`, a multiple of
`10 ^ unit m`. -/
structure RoundsDigits (unit : ℤ → ℤ) (m : ℤ) (q t : ℚ) : Prop where
  exponent : HasExponent q m
  exists_rounds : ∃ n : ℕ, RoundsTo (fun n => (n : ℚ)) (q / 10 ^ unit m) n ∧ t = n * 10 ^ unit m

namespace RoundsDigits

variable {unit : ℤ → ℤ} {m n : ℤ} {q t y : ℚ}

theorem unique {t' : ℚ} (h : RoundsDigits unit m q t) (h' : RoundsDigits unit n q t') :
    t = t' := by
  obtain rfl := h.exponent.unique h'.exponent
  obtain ⟨k, rounds, rfl⟩ := h.exists_rounds
  obtain ⟨k', rounds', rfl⟩ := h'.exists_rounds
  rw [rounds.unique strictMono_natCast rounds']

/-- Powers of ten are not rounded, so the first digit keeps its place or is carried to the next. -/
theorem bounds (lt : ∀ m, unit m < m) (h : RoundsDigits unit m q t) :
    10 ^ m ≤ t ∧ t ≤ 10 ^ (m + 1) := by
  obtain ⟨n, rounds, rfl⟩ := h.exists_rounds
  have pos : (0 : ℚ) < 10 ^ unit m := by positivity
  obtain ⟨i, -, low⟩ := exists_ten_zpow_eq (lt m).le
  obtain ⟨j, -, high⟩ := exists_ten_zpow_eq ((lt m).trans (lt_add_one m)).le
  rw [low, high]
  constructor
  · refine mul_le_mul_of_nonneg_right (Nat.cast_le.2 ?_) pos.le
    refine rounds.le_of_ge strictMono_natCast ((le_div_iff₀ pos).2 ?_)
    rw [← low]
    exact h.exponent.le
  · refine mul_le_mul_of_nonneg_right (Nat.cast_le.2 ?_) pos.le
    refine rounds.le_of_le strictMono_natCast ((div_le_iff₀ pos).2 ?_)
    rw [← high]
    exact h.exponent.lt.le

theorem le_zpow (lt : ∀ m, unit m < m) (h : RoundsDigits unit m q t) {b : ℤ} (less : q < 10 ^ b) :
    t ≤ 10 ^ b := by
  have below : m < b := (zpow_lt_zpow_iff_right₀ (by norm_num)).1 (h.exponent.le.trans_lt less)
  exact (h.bounds lt).2.trans (zpow_le_zpow_right₀ (by norm_num) below)

theorem zpow_le (lt : ∀ m, unit m < m) (h : RoundsDigits unit m q t) {b : ℤ} (le : 10 ^ b ≤ q) :
    10 ^ b ≤ t := by
  have above : b < m + 1 := (zpow_lt_zpow_iff_right₀ (by norm_num)).1 (le.trans_lt h.exponent.lt)
  exact (zpow_le_zpow_right₀ (by norm_num) (Int.lt_add_one_iff.1 above)).trans (h.bounds lt).1

theorem abs_sub_le (h : RoundsDigits unit m q t) : |q - t| ≤ 10 ^ unit m / 2 := by
  obtain ⟨n, rounds, rfl⟩ := h.exists_rounds
  rw [abs_sub_comm]
  exact rounds.abs_mul_sub_le (by positivity) h.exponent.pos.le

/-- A number near a power of ten is rounded to it, half a unit away at most. -/
theorem of_power (exponent : HasExponent y n) {b : ℤ} (le : unit n < b)
    (near : |y - 10 ^ b| ≤ 10 ^ unit n / 2) : RoundsDigits unit n y (10 ^ b) := by
  have pos : (0 : ℚ) < 10 ^ unit n := by positivity
  obtain ⟨j, exponents, power⟩ := exists_ten_zpow_eq le.le
  refine ⟨exponent, 10 ^ j, roundsTo_of_abs_sub_le ?_ fun _ => ?_, power⟩
  · rw [abs_div_sub pos, ← power, div_le_iff₀ pos]
    linarith
  · exact Nat.even_pow.2 ⟨by decide, by omega⟩

/-- Only a power of ten lies so near to a number below it that has another first digit, -/
theorem eq_of_lt (lt : ∀ m, unit m < m) (h : RoundsDigits unit m q t)
    (near : |y - t| ≤ 10 ^ unit m / 2) (less : y < 10 ^ m) : t = 10 ^ m := by
  have pos : (0 : ℚ) < 10 ^ unit m := by positivity
  have low := (h.bounds lt).1
  have apart := (abs_le.1 near).1
  obtain ⟨k, -, value⟩ := h.exists_rounds
  by_contra ne
  have gap := ten_zpow_add_le (lt m).le (value ▸ lt_of_le_of_ne low (Ne.symm ne))
  rw [← value] at gap
  linarith

/-- and so near to one above it. -/
theorem eq_of_le (lt : ∀ m, unit m < m) (h : RoundsDigits unit m q t)
    (near : |y - t| ≤ 10 ^ unit m / 2) (more : 10 ^ (m + 1) ≤ y) : t = 10 ^ (m + 1) := by
  have pos : (0 : ℚ) < 10 ^ unit m := by positivity
  have high := (h.bounds lt).2
  have apart := (abs_le.1 near).2
  obtain ⟨k, -, value⟩ := h.exists_rounds
  by_contra ne
  have gap := add_le_ten_zpow ((lt m).trans (lt_add_one m)).le (value ▸ lt_of_le_of_ne high ne)
  rw [← value] at gap
  linarith

/-- What is rounded to stays where it is when a number is rounded that is no farther from it, if
only a number below the first digit is near enough to it. -/
theorem stable (mono : Monotone unit) (lt : ∀ m, unit m < m) (h : RoundsDigits unit m q t)
    (nearer : |y - t| ≤ |q - t|)
    (below : t = 10 ^ m → y < 10 ^ m → 10 ^ m - y ≤ 10 ^ unit (m - 1) / 2) :
    ∃ n, RoundsDigits unit n y t := by
  have near := nearer.trans h.abs_sub_le
  have next : ∀ i : ℤ, (10 : ℚ) ^ (i + 1) = 10 ^ i * 10 := zpow_add_one₀ (by norm_num)
  have unit_le : ∀ i, (10 : ℚ) ^ unit i ≤ 10 ^ i := fun i =>
    zpow_le_zpow_right₀ (by norm_num) (lt i).le
  rcases lt_or_ge y (10 ^ m) with less | notLess
  · -- The first digit is lost.
    have power := h.eq_of_lt lt near less
    have close := below power less
    have exponent : HasExponent y (m - 1) := by
      have pos : (0 : ℚ) < 10 ^ (m - 1) := by positivity
      have shift := next (m - 1)
      have le := unit_le (m - 1)
      rw [sub_add_cancel] at shift
      exact ⟨by linarith, by rwa [sub_add_cancel]⟩
    refine ⟨m - 1, power ▸ of_power exponent ((lt _).trans (sub_one_lt m)) ?_⟩
    rwa [abs_sub_comm, abs_of_pos (sub_pos.2 less)]
  rcases lt_or_ge y (10 ^ (m + 1)) with same | more
  · have pos : (0 : ℚ) < 10 ^ unit m := by positivity
    obtain ⟨k, rounds, value⟩ := h.exists_rounds
    refine ⟨m, ⟨notLess, same⟩, k,
      rounds.of_nearer (div_nonneg h.exponent.pos.le pos.le) ?_, value⟩
    rw [abs_div_sub pos, abs_div_sub pos, ← value]
    exact div_le_div_of_nonneg_right nearer pos.le
  · -- A digit is carried.
    have power := h.eq_of_le lt near more
    have exponent : HasExponent y (m + 1) := by
      have apart := (abs_le.1 near).2
      have pos : (0 : ℚ) < 10 ^ m := by positivity
      have le := unit_le m
      refine ⟨more, ?_⟩
      rw [next (m + 1)]
      rw [power, next m] at apart
      rw [next m]
      linarith
    have coarser : (10 : ℚ) ^ unit m ≤ 10 ^ unit (m + 1) :=
      zpow_le_zpow_right₀ (by norm_num) (mono (lt_add_one m).le)
    refine ⟨m + 1, power ▸ of_power exponent (lt _) ?_⟩
    rw [← power]
    exact near.trans (by linarith)

end RoundsDigits

end Calculator.Number

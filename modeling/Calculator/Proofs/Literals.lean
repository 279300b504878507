import Calculator.Proofs.Agreement

/-! The numbers of a text. From a place where a number starts, the scanner goes on to the end of the
numeral that is there. What it passes is a numeral of the grammar, without a sign, and its number is
the exact value, correctly rounded: to the nearest finite number, to the even one of two that are as
near, and to infinity on an overflow only. So the tokens of a text and the literals of an expression
are neither NaN nor signed. -/
namespace Calculator

open Number Numeral

namespace Number

/-- Half way from the greatest finite number to the next power of two. -/
def overflow : ℚ := 2 ^ 1024 - 2 ^ 970

/-- No finite number is nearer to `q` than `x`, and where another one is as near, the mantissa of `x`
is even. -/
structure IsNearest (q : ℚ) (x : Float) : Prop where
  isFinite : x.isFinite
  le : ∀ y : Float, y.isFinite → |exact x - q| ≤ |exact y - q|
  even : ∀ y : Float, y.isFinite → exact y ≠ exact x → |exact y - q| = |exact x - q| →
    Even (Binary.ofFloat x).mantissa

/-- `x` is the rational `q`, rounded. From `overflow` on it is infinite, and only there. -/
structure IsRounded (q : ℚ) (x : Float) : Prop where
  nearest : q < overflow → IsNearest q x
  infinite : overflow ≤ q → x = infinity
  positive : (Binary.ofFloat x).negative = false

/-- Finite or infinite, and without a sign bit. -/
def Signless (x : Float) : Prop := x.isNaN = false ∧ (Binary.ofFloat x).negative = false

variable {q : ℚ} {n : ℕ} {x : Float}

theorem IsRounded.signless (h : IsRounded q x) : Signless x := by
  refine ⟨?_, h.positive⟩
  rcases lt_or_ge q overflow with lt | ge
  · exact isNaN_of_isFinite (h.nearest lt).isFinite
  · rw [h.infinite ge]
    decide +kernel

theorem middle_eq_overflow :
    (floatGrid (finiteCount - 1) + floatGrid finiteCount) / 2 = overflow := by
  have unit : (2 : ℚ) ^ 971 = 2 * 2 ^ 970 := pow_succ' 2 970
  have power : (2 : ℚ) ^ 1024 = 2 ^ 54 * 2 ^ 970 := by rw [← pow_add]
  rw [floatGrid_pred_finiteCount, floatGrid_finiteCount, greatest, overflow, unit, power]
  -- The powers are left closed, for `ring` would compute them.
  generalize (2 : ℚ) ^ 970 = u
  push_cast
  ring

/-- The middle itself overflows: the greatest finite number has an odd mantissa. -/
theorem roundsTo_overflow : RoundsTo floatGrid overflow finiteCount := by
  have below : floatGrid (finiteCount - 1) < floatGrid finiteCount :=
    strictMono_floatGrid (by decide)
  have above := strictMono_floatGrid (Nat.lt_succ_self finiteCount)
  rw [Nat.succ_eq_add_one] at above
  have middle := middle_eq_overflow
  refine ⟨by linarith, fun eq => by linarith, ?_, fun _ _ _ => by decide⟩
  intro k last
  rw [Nat.eq_sub_of_add_eq last.symm, middle]

theorem RoundsTo.lt_finiteCount_iff (h : RoundsTo floatGrid q n) :
    n < finiteCount ↔ q < overflow := by
  constructor
  · intro lt
    by_contra! ge
    exact absurd (roundsTo_overflow.mono strictMono_floatGrid h ge) (Nat.not_le.2 lt)
  · intro lt
    by_contra! ge
    have some : 0 < finiteCount := by decide
    have low := h.below_le (n - 1) (by omega)
    have last : floatGrid finiteCount ≤ floatGrid n := strictMono_floatGrid.monotone ge
    have before : floatGrid (finiteCount - 1) ≤ floatGrid (n - 1) :=
      strictMono_floatGrid.monotone (Nat.sub_le_sub_right ge 1)
    have middle := middle_eq_overflow
    linarith

theorem even_mantissa_nthFloat (lt : n < finiteCount) (h : Even n) :
    Even (Binary.ofFloat (nthFloat n)).mantissa := by
  obtain ⟨k, m, number, small, normal⟩ := exists_binade n
  rw [ofFloat_nthFloat number small normal lt]
  rw [Nat.even_iff] at *
  change m % 2 = 0
  omega

/-- No finite number is nearer than the one of the grid that is rounded to. -/
theorem RoundsTo.isNearest (h : RoundsTo floatGrid q n) (nonneg : 0 ≤ q) (lt : n < finiteCount) :
    IsNearest q (nthFloat n) := by
  have value := exact_nthFloat lt.le
  refine ⟨(isFinite_nthFloat lt.le).2 lt, fun y finite => ?_, fun y finite other same => ?_⟩
  · obtain ⟨m, -, -, size⟩ := exists_abs finite
    have folded := abs_abs_sub_abs_le_abs_sub (exact y) q
    rw [size, abs_of_nonneg nonneg] at folded
    rw [value]
    exact (h.abs_sub_le strictMono_floatGrid m).trans folded
  · rw [value] at other same
    -- A negative number is farther away than zero.
    have positive : 0 ≤ exact y := by
      by_contra! negative
      have zero := h.abs_sub_le strictMono_floatGrid 0
      rw [← same, floatGrid_zero, zero_sub, abs_neg, abs_of_nonneg nonneg,
        abs_of_neg (by linarith)] at zero
      linarith
    obtain ⟨m, -, -, size⟩ := exists_abs finite
    rw [abs_of_nonneg positive] at size
    rw [size] at other same
    exact even_mantissa_nthFloat lt
      (h.even_of_abs_sub_eq strictMono_floatGrid (ne_of_apply_ne floatGrid other) same)

namespace Numeral

variable {cs : List Char} {numeral : Numeral}

theorem rational_nonneg (numeral : Numeral) : 0 ≤ numeral.rational := by
  rw [rational]
  positivity

theorem isRounded_value (numeral : Numeral) : IsRounded numeral.rational numeral.value := by
  obtain ⟨m, rounds, value⟩ := numeral.exists_value
  rw [value]
  refine ⟨fun lt => ?_, fun ge => ?_, ?_⟩
  · have lt := rounds.lt_finiteCount_iff.2 lt
    rw [min_eq_left lt.le]
    exact rounds.isNearest numeral.rational_nonneg lt
  · have ge := Nat.not_lt.1 (mt rounds.lt_finiteCount_iff.1 (not_lt.2 ge))
    rw [min_eq_right ge, infinity_eq]
  · have bits := toBits_nthFloat (min_le_right m finiteCount)
    have small : min m finiteCount < 2 ^ 63 := (min_le_right m finiteCount).trans_lt (by decide)
    exact (ofFloat_of_toBits_lt (bits.trans_lt small)).1

theorem formed_iff_exists_denotes : Formed cs ↔ ∃ q, Denotes cs q := by
  constructor
  · rintro ⟨mantissa, exponent, isMantissa, isExponent, rfl⟩
    exact ⟨_, mantissa, exponent, isMantissa, isExponent, rfl, rfl⟩
  · rintro ⟨-, mantissa, exponent, isMantissa, isExponent, rfl, -⟩
    exact ⟨mantissa, exponent, isMantissa, isExponent, rfl⟩

theorem denotes_of_read? (h : read? cs = some numeral) : Denotes cs numeral.rational := by
  have formed : Formed cs := by
    rw [← isNumeral_iff_formed, ← isSome_read?_iff, h]
    rfl
  obtain ⟨q, denotes⟩ := formed_iff_exists_denotes.1 formed
  obtain ⟨n, read, rfl⟩ := exists_read? denotes
  obtain rfl := Option.some.inj (read.symm.trans h)
  exact denotes

/-- The reader and the grammar agree on which texts are numerals and on their exact values. -/
theorem denotes_iff : Denotes cs q ↔ ∃ numeral, read? cs = some numeral ∧ numeral.rational = q := by
  constructor
  · exact exists_read?
  · rintro ⟨numeral, read, rfl⟩
    exact denotes_of_read? read

example : Denotes "12.5E-1".toList (5 / 4) :=
  denotes_iff.2 ⟨⟨125, -2⟩, by decide +kernel, by norm_num [rational]⟩

end Numeral

end Number

namespace Token

variable {cs : List Char} {start stop : ℕ} {x : Float}

/-- Where the scanner goes on after a number that starts at the given place. -/
def numeralEnd (cs : List Char) (start : ℕ) : ℕ := start + (split (cs.drop start)).1.length

/-- From `start` to `stop` there is a numeral of the grammar, without a sign, and the scanner takes
all of it for the number `x`, which is its exact value, rounded. -/
structure NumberAt (cs : List Char) (start stop : ℕ) (x : Float) : Prop where
  start_lt : start < stop
  stop_le : stop ≤ cs.length
  scanned : scanFrom start (cs.drop start) = (scanFrom stop (cs.drop stop)).map (.number x :: ·)
  numeral : (Numeral.read? (cs.extract start stop)).isSome
  read : Number.read? (cs.extract start stop) = some x
  rounded : ∃ q, Denotes (cs.extract start stop) q ∧ IsRounded q x

theorem NumberAt.signless (h : NumberAt cs start stop x) : Signless x := by
  obtain ⟨q, -, isRounded⟩ := h.rounded
  exact isRounded.signless

theorem extract_numeralEnd (cs : List Char) (start : ℕ) :
    cs.extract start (numeralEnd cs start) = (split (cs.drop start)).1 := by
  have whole := split_append (cs.drop start)
  rw [List.extract_eq_take_drop, numeralEnd, Nat.add_sub_cancel_left]
  nth_rewrite 2 [← whole]
  rw [List.take_left]

theorem drop_numeralEnd (cs : List Char) (start : ℕ) :
    cs.drop (numeralEnd cs start) = (split (cs.drop start)).2 := by
  have whole := split_append (cs.drop start)
  rw [numeralEnd, ← List.drop_drop]
  nth_rewrite 2 [← whole]
  rw [List.drop_left]

theorem numeralEnd_bounds (h : starts (cs.drop start)) :
    start < numeralEnd cs start ∧ numeralEnd cs start ≤ cs.length := by
  have some := List.length_pos_iff.2 (split_fst_ne_nil h)
  have whole := congrArg List.length (split_append (cs.drop start))
  rw [List.length_append, List.length_drop] at whole
  unfold numeralEnd
  omega

theorem numberAt_numeralEnd (h : starts (cs.drop start)) :
    NumberAt cs start (numeralEnd cs start)
      (numberOf (cs.extract start (numeralEnd cs start))) := by
  obtain ⟨start_lt, stop_le⟩ := numeralEnd_bounds h
  have formed := formed_split h
  obtain ⟨q, denotes⟩ := formed_iff_exists_denotes.1 formed
  obtain ⟨numeral, read, rfl⟩ := denotes_iff.1 denotes
  have value : numberOf (split (cs.drop start)).1 = numeral.value := by
    rw [numberOf, read]
  -- Without a sign, the reader of whole numbers reads the numeral itself.
  have unsigned := read?_withSign (isNumeral_iff_formed.2 formed).1 false
  rw [read] at unsigned
  rw [← extract_numeralEnd] at denotes read value unsigned
  refine ⟨start_lt, stop_le, ?_, ?_, ?_, ?_⟩
  · rw [extract_numeralEnd, drop_numeralEnd]
    exact scanFrom_number h
  · rw [read]
    rfl
  · rw [value]
    exact unsigned
  · rw [value]
    exact ⟨_, denotes, numeral.isRounded_value⟩

theorem exists_numberAt_of_mem {tokens : List Token} (h : scanFrom 0 cs = .ok tokens)
    (mem : .number x ∈ tokens) : ∃ start, NumberAt cs start (numeralEnd cs start) x := by
  obtain ⟨rest, ⟨before, rfl⟩, isStart, rfl⟩ := exists_suffix_of_mem 0 cs tokens h mem
  have place : (before ++ rest).drop before.length = rest := List.drop_left
  rw [← place] at isStart
  have number := numberAt_numeralEnd isStart
  rw [extract_numeralEnd, place] at number
  exact ⟨before.length, number⟩

end Token

namespace Calculation

/-- Wherever a number starts in a text, the scanner takes a numeral for its value, correctly
rounded. Every number token comes from such a place, and every literal of an expression from a
number token, so none of them is NaN or has its sign bit set. -/
theorem numbers_rounded :
    (∀ (cs : List Char) (start : ℕ), starts (cs.drop start) →
      Token.NumberAt cs start (Token.numeralEnd cs start)
        (Token.numberOf (cs.extract start (Token.numeralEnd cs start)))) ∧
    (∀ (s : String) (tokens : List Token), Token.scan s = .ok tokens → ∀ x, .number x ∈ tokens →
      Signless x ∧ ∃ start, Token.NumberAt s.toList start (Token.numeralEnd s.toList start) x) ∧
    ∀ (s : String) (tokens : List Token) (e : Expr), read s = .ok (tokens, e) →
      ∀ x ∈ e.literals, Signless x := by
  refine ⟨fun cs start h => Token.numberAt_numeralEnd h, fun s tokens h x mem => ?_,
    fun s tokens e h x mem => ?_⟩
  · obtain ⟨start, number⟩ := Token.exists_numberAt_of_mem h mem
    exact ⟨number.signless, start, number⟩
  · obtain ⟨line, scans, mem⟩ := exists_scan_of_read h mem
    obtain ⟨start, number⟩ := Token.exists_numberAt_of_mem scans mem
    exact number.signless

/-- Points and marks that belong to a numeral, others that do not, and an overflow. -/
theorem numbers_rounded_places :
    let cs := "5.e+(.5E-7)1e1.2".toList
    (Token.NumberAt cs 0 2 5 ∧ Token.NumberAt cs 5 10 5e-8 ∧ Token.NumberAt cs 11 14 10 ∧
      Token.NumberAt cs 14 16 0.2) ∧
    (Token.scan "1.2.3" = .ok [.number 1.2, .number 0.3, .stop] ∧ Signless 1.2 ∧ Signless 0.3) ∧
    read "-1e999" = .ok ([.operator .subtract, .number infinity, .stop],
      .negate (.number infinity)) ∧ Signless infinity := by
  intro cs
  obtain ⟨places, tokens, literals⟩ := numbers_rounded
  have number (start stop : ℕ) (x : Float) (h : starts (cs.drop start))
      (last : Token.numeralEnd cs start = stop)
      (value : Token.numberOf (cs.extract start stop) = x) : Token.NumberAt cs start stop x := by
    have found := places cs start h
    rwa [last, value] at found
  have scanned : Token.scan "1.2.3" = .ok [.number 1.2, .number 0.3, .stop] := by decide +kernel
  have reads : read "-1e999" = .ok ([.operator .subtract, .number infinity, .stop],
      .negate (.number infinity)) := by decide +kernel
  refine ⟨⟨?_, ?_, ?_, ?_⟩, ⟨scanned, ?_, ?_⟩, reads, ?_⟩
  · exact number 0 2 5 (by decide +kernel) (by decide +kernel) (by decide +kernel)
  · exact number 5 10 5e-8 (by decide +kernel) (by decide +kernel) (by decide +kernel)
  · exact number 11 14 10 (by decide +kernel) (by decide +kernel) (by decide +kernel)
  · exact number 14 16 0.2 (by decide +kernel) (by decide +kernel) (by decide +kernel)
  · exact (tokens _ _ scanned 1.2 (by simp)).1
  · exact (tokens _ _ scanned 0.3 (by simp)).1
  · exact literals _ _ _ reads infinity (List.mem_singleton_self _)

end Calculation

end Calculator

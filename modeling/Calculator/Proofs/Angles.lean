import Calculator.Proofs.Degrees
import Calculator.Proofs.Integers

/-! The trigonometric functions at whole degrees. The values that are looked up are those of
analysis, and they are looked up wherever they are simple: for sine and cosine zero, a half and one,
for the tangent zero, one and the poles, up to sign. So the look-up has the symmetries of the
functions. -/
namespace Calculator

open Number

namespace Number

theorem Binary.value_eq_div (b : Binary) : b.value =
    ((if b.negative then -(b.numerator : ℤ) else b.numerator : ℤ) : ℚ) / b.denominator := by
  rw [Binary.value, zpow_eq_toNat two_ne_zero, Binary.numerator, Binary.denominator]
  cases b.negative <;> simp [mul_div_assoc, neg_div]

theorem Binary.floor_eq {b : Binary} {n : ℤ} (h : b.value = n) : b.floor = n := by
  have pos : (0 : ℤ) < b.denominator := Int.natCast_pos.2 b.denominator_pos
  have quotient : (if b.negative then -(b.numerator : ℤ) else b.numerator) =
      n * b.denominator := by
    rw [b.value_eq_div, div_eq_iff (by exact_mod_cast pos.ne')] at h
    exact_mod_cast h
  rw [Binary.floor, quotient, Int.mul_ediv_cancel n pos.ne']

theorem integer?_eq_some_iff {x : Float} {n : ℤ} : integer? x = some n ↔ IsInt x n := by
  rw [integer?]
  constructor
  · intro h
    obtain ⟨conditions, floor⟩ := Option.ite_none_right_eq_some.1 h
    obtain rfl := Option.some.inj floor
    obtain ⟨finite, integer⟩ := Bool.and_eq_true_iff.1 conditions
    obtain ⟨i, size⟩ := (Binary.isInteger_iff _).1 integer
    have signed : exact x = (i : ℤ) ∨ exact x = (-i : ℤ) := by
      push_cast
      exact abs_eq_abs.1 (size.trans (Nat.abs_cast i).symm)
    rcases signed with value | value
    · exact ⟨finite, by rw [Binary.floor_eq value, value]⟩
    · exact ⟨finite, by rw [Binary.floor_eq value, value]⟩
  · rintro ⟨finite, value⟩
    have integer : (Binary.ofFloat x).isInteger :=
      (Binary.isInteger_iff _).2 ⟨n.natAbs, by rw [← exact, value, Nat.cast_natAbs, Int.cast_abs]⟩
    rw [if_pos (by rw [finite, integer]; rfl), Binary.floor_eq value]

end Number

namespace Trig

namespace Outcome

/-- The outcome is this value, without rounding. Nothing stands for an undefined one. -/
inductive Is : Outcome → Option ℝ → Prop
  | value {x : Float} {v : ℝ} (finite : x.isFinite) (eq : (exact x : ℝ) = v) :
    Is (.value x) (some v)
  | undefined : Is .undefined none

/-- The same outcome, but for the sign of zero. -/
inductive Same : Outcome → Outcome → Prop
  | value {x y : Float} (alike : Alike x y) : Same (.value x) (.value y)
  | undefined : Same .undefined .undefined

def negated : Outcome → Outcome
  | .value x => .value (-x)
  | .undefined => .undefined

variable {o o' : Outcome} {v : Option ℝ}

theorem Is.negated (h : o.Is v) : o.negated.Is (v.map (-·)) := by
  cases h with
  | value finite eq =>
    refine .value (by rwa [isFinite_neg]) ?_
    rw [exact_neg finite, Rat.cast_neg, eq]
  | undefined => exact .undefined

theorem Is.same (h : o.Is v) (h' : o'.Is v) : o.Same o' := by
  cases h with
  | value finite eq =>
    cases h' with
    | value finite' eq' =>
      exact .value (alike_of_exact_eq finite finite' (by exact_mod_cast eq.trans eq'.symm))
  | undefined =>
    cases h' with
    | undefined => exact .undefined

end Outcome

/-- Both look-ups find nothing, or the same but for the sign of zero. -/
def Agree (o o' : Option Outcome) : Prop := Option.Rel Outcome.Same o o'

/-- What is looked up is zero, of either sign. -/
def IsZero (o : Option Outcome) : Prop := ∃ z, o = some (.value z) ∧ z == 0.0

/-- The simple values, sign apart. -/
def simpleSizes : Trig → Set ℝ
  | .sin | .cos => {0, 1 / 2, 1}
  | .tan => {0, 1}

/-- The value is simple, or there is none. -/
def IsSimple (sizes : Set ℝ) (v : Option ℝ) : Prop := ∀ y ∈ v, |y| ∈ sizes

/-- What is looked up: the value, if it is simple, and nothing if it is not. -/
structure Gives (sizes : Set ℝ) (v : Option ℝ) (o : Option Outcome) : Prop where
  values : ∀ p, o = some p → p.Is v
  isSome_iff : o.isSome ↔ IsSimple sizes v

namespace Gives

variable {sizes : Set ℝ} {v : Option ℝ} {o o' : Option Outcome}

theorem negated (h : Gives sizes v o) : Gives sizes (v.map (-·)) (o.map Outcome.negated) := by
  refine ⟨fun p eq => ?_, ?_⟩
  · obtain ⟨q, found, rfl⟩ := Option.map_eq_some_iff.1 eq
    exact (h.values q found).negated
  · rw [Option.isSome_map, h.isSome_iff]
    simp [IsSimple]

theorem same (h : Gives sizes v o) (h' : Gives sizes v o') : Agree o o' := by
  have both := h.isSome_iff.trans h'.isSome_iff.symm
  cases o with
  | none =>
    cases o' with
    | none => exact .none
    | some q => simp at both
  | some p =>
    cases o' with
    | none => simp at both
    | some q => exact .some ((h.values p rfl).same (h'.values q rfl))

theorem exists_is (h : Gives sizes v o) (simple : IsSimple sizes v) : ∃ p, o = some p ∧ p.Is v := by
  obtain ⟨p, found⟩ := Option.isSome_iff_exists.1 (h.isSome_iff.2 simple)
  exact ⟨p, found, h.values p found⟩

theorem undefined_iff (h : Gives sizes v o) : o = some .undefined ↔ v = none := by
  constructor
  · intro found
    cases h.values _ found
    rfl
  · rintro rfl
    obtain ⟨p, found, value⟩ := h.exists_is nofun
    cases value
    exact found

theorem isZero_iff (h : Gives sizes v o) (zero : 0 ∈ sizes) : IsZero o ↔ v = some 0 := by
  constructor
  · rintro ⟨z, found, isZero⟩
    cases h.values _ found with
    | value finite eq =>
      rw [← eq, (beq_zero_iff_exact finite).1 isZero, Rat.cast_zero]
  · rintro rfl
    obtain ⟨p, found, value⟩ := h.exists_is (by simpa [IsSimple] using zero)
    cases value with
    | value finite eq =>
      exact ⟨_, found, (beq_zero_iff_exact finite).2 (by exact_mod_cast eq)⟩

end Gives

/-- The simple values of the cosine, each with an angle where it is taken. -/
def simpleCosines : List (ℤ × Outcome) :=
  [(90, .value 0.0), (60, .value 0.5), (0, .value 1.0), (120, .value (-0.5)), (180, .value (-1.0))]

/-- The simple values, each with an angle where it is taken. The sine takes those of the cosine at
the complements. -/
def simpleValues : Trig → List (ℤ × Outcome)
  | .sin => simpleCosines.map fun entry => (90 - entry.1, entry.2)
  | .cos => simpleCosines
  | .tan => [(0, .value 0.0), (45, .value 1.0), (90, .undefined), (135, .value (-1.0))]

theorem table?_eq_find? (f : Trig) (n : ℤ) : f.table? (n % 360).toNat =
    (f.simpleValues.find? fun entry => f.Repeats n entry.1).map (·.2) := by
  have rows : ∀ r < 360, f.table? r =
      (f.simpleValues.find? fun entry => f.Repeats (r : ℕ) entry.1).map (·.2) := by
    cases f <;> decide +kernel
  have turns (m : ℤ) : f.Repeats ((n % 360).toNat : ℕ) m ↔ f.Repeats n m := by
    cases f <;> simp only [Repeats] <;> omega
  rw [rows _ (by omega)]
  simp only [turns]

theorem is_zero : (Outcome.value 0.0).Is (some 0) := by
  have number : IsInt 0.0 0 := integer?_eq_some_iff.1 (by decide +kernel)
  exact .value number.finite (by simp [number.value])

theorem is_half : (Outcome.value 0.5).Is (some (1 / 2)) := by
  have parts : Binary.ofFloat 0.5 = ⟨false, 2 ^ 52, -53⟩ := by decide +kernel
  refine .value (by decide +kernel) ?_
  rw [exact, parts, Binary.value]
  norm_num

theorem is_one : (Outcome.value 1.0).Is (some 1) := by
  have number : IsInt 1.0 1 := integer?_eq_some_iff.1 (by decide +kernel)
  exact .value number.finite (by simp [number.value])

theorem is_neg_half : (Outcome.value (-0.5)).Is (some (-(1 / 2))) := is_half.negated

theorem is_neg_one : (Outcome.value (-1.0)).Is (some (-1)) := is_one.negated

theorem is_of_mem_simpleCosines {entry : ℤ × Outcome} (mem : entry ∈ simpleCosines) :
    entry.2.Is (Trig.cos.real? (degrees entry.1)) := by
  simp only [simpleCosines, List.mem_cons, List.not_mem_nil, or_false] at mem
  rcases mem with rfl | rfl | rfl | rfl | rfl
  · exact real?_cos_ninety ▸ is_zero
  · exact real?_cos_sixty ▸ is_half
  · exact real?_cos_zero ▸ is_one
  · exact real?_cos_above_ninety.1 ▸ is_neg_half
  · exact real?_cos_above_ninety.2 ▸ is_neg_one

/-- The simple values are exact. -/
theorem is_of_mem_simpleValues {f : Trig} {entry : ℤ × Outcome} (mem : entry ∈ f.simpleValues) :
    entry.2.Is (f.real? (degrees entry.1)) := by
  cases f with
  | sin =>
    obtain ⟨cosine, found, rfl⟩ := List.mem_map.1 mem
    rw [real?_sin_complement]
    exact is_of_mem_simpleCosines found
  | cos => exact is_of_mem_simpleCosines mem
  | tan =>
    obtain ⟨zero, one, pole, negOne⟩ := real?_tan_values
    simp only [simpleValues, List.mem_cons, List.not_mem_nil, or_false] at mem
    rcases mem with rfl | rfl | rfl | rfl
    · exact zero ▸ is_zero
    · exact one ▸ is_one
    · exact pole ▸ .undefined
    · exact negOne ▸ is_neg_one

theorem isSimple_cosine_iff (y : ℝ) : IsSimple {0, 1 / 2, 1} (some y) ↔
    ∃ entry ∈ simpleCosines, some y = Trig.cos.real? (degrees entry.1) := by
  simp only [simpleCosines, List.mem_cons, List.not_mem_nil, or_false, exists_eq_or_imp,
    exists_eq_left, real?_cos_ninety, real?_cos_sixty, real?_cos_zero, real?_cos_above_ninety,
    Option.some_inj]
  have half : |y| = 1 / 2 ↔ y = 1 / 2 ∨ y = -(1 / 2) := abs_eq (by norm_num)
  have one : |y| = 1 ↔ y = 1 ∨ y = -1 := abs_eq zero_le_one
  simp only [IsSimple, Option.mem_some_iff, forall_eq', Set.mem_insert_iff,
    Set.mem_singleton_iff, abs_eq_zero, half, one]
  tauto

/-- The simple values are all there. -/
theorem isSimple_iff (f : Trig) (a : ℝ) : IsSimple f.simpleSizes (f.real? a) ↔
    ∃ entry ∈ f.simpleValues, f.real? a = f.real? (degrees entry.1) := by
  cases f with
  | sin =>
    simp only [simpleValues, List.mem_map, exists_exists_and_eq_and, real?_sin_complement]
    exact isSimple_cosine_iff _
  | cos => exact isSimple_cosine_iff _
  | tan =>
    simp only [simpleValues, List.mem_cons, List.not_mem_nil, or_false, exists_eq_or_imp,
      exists_eq_left, real?_tan_values]
    have one (y : ℝ) : |y| = 1 ↔ y = 1 ∨ y = -1 := abs_eq zero_le_one
    cases Trig.tan.real? a with
    | none => simp [IsSimple]
    | some y =>
      simp [IsSimple, simpleSizes, one]

/-- The table gives the simple values of the function. -/
theorem gives_table? (f : Trig) (n : ℤ) :
    Gives f.simpleSizes (f.real? (degrees n)) (f.table? (n % 360).toNat) := by
  rw [table?_eq_find?]
  constructor
  · intro p eq
    obtain ⟨entry, found, rfl⟩ := Option.map_eq_some_iff.1 eq
    have repeats := List.find?_some found
    rw [decide_eq_true_eq] at repeats
    rw [real?_eq_of_repeats repeats]
    exact is_of_mem_simpleValues (List.mem_of_find?_eq_some found)
  · rw [isSimple_iff, Option.isSome_map, List.find?_isSome]
    simp only [decide_eq_true_eq, real?_degrees_eq_iff]

theorem isInt_turn : IsInt 360.0 360 := integer?_eq_some_iff.1 (by decide +kernel)

/-- The number is a whole number of degrees that is looked up. -/
structure Covered (x : Float) (n : ℤ) : Prop where
  number : IsInt x n
  range : n.natAbs ≤ greatestExact

variable {x y : Float} {n m : ℤ}

namespace Covered

theorem lt_two_pow (le : n.natAbs ≤ greatestExact) : n.natAbs < 2 ^ 53 :=
  le.trans_lt (by decide)

theorem neg (h : Covered x n) : Covered (-x) (-n) :=
  ⟨h.number.neg, by rw [Int.natAbs_neg]; exact h.range⟩

theorem add (h : Covered x n) (h' : IsInt y m) (range : (n + m).natAbs ≤ greatestExact) :
    Covered (x + y) (n + m) :=
  ⟨h.number.add h' (lt_two_pow range), range⟩

theorem rsub (h : Covered x n) (h' : IsInt y m) (range : (m - n).natAbs ≤ greatestExact) :
    Covered (y - x) (m - n) :=
  ⟨h'.sub h.number (lt_two_pow range), range⟩

theorem unique (h : Covered x n) (h' : Covered x m) : n = m := by
  have same := h.number.value.symm.trans h'.number.value
  exact_mod_cast same

theorem gives (h : Covered x n) (f : Trig) :
    Gives f.simpleSizes (f.real? (degrees n)) (f.tabulated? x) := by
  have found : f.tabulated? x = f.table? (n % 360).toNat := by
    have reduced := h.number.euclideanRemainder isInt_turn (by decide) (by decide)
    simp only [tabulated?, integer?_eq_some_iff.2 h.number, if_neg (not_lt.2 h.range),
      Binary.floor_eq reduced.value]
  rw [found]
  exact gives_table? f n

end Covered

theorem tabulated?_of_not_covered (h : ∀ n, ¬Covered x n) (f : Trig) : f.tabulated? x = none := by
  rw [tabulated?]
  cases integer : integer? x with
  | none => rfl
  | some n =>
    exact if_pos (not_le.1 fun range => h n ⟨integer?_eq_some_iff.1 integer, range⟩)

/-- The symmetries of what is looked up at `x`, which is an angle of `n` degrees, wherever the other
angle is looked up as well. -/
structure Symmetric (x : Float) (n : ℤ) : Prop where
  turn : (n + 360).natAbs ≤ greatestExact →
    ∀ f : Trig, Agree (f.tabulated? (x + 360.0)) (f.tabulated? x)
  sin_neg : Agree (Trig.sin.tabulated? (-x)) ((Trig.sin.tabulated? x).map .negated)
  cos_neg : Agree (Trig.cos.tabulated? (-x)) (Trig.cos.tabulated? x)
  tan_neg : Agree (Trig.tan.tabulated? (-x)) ((Trig.tan.tabulated? x).map .negated)
  sin_halfTurn : (n + 180).natAbs ≤ greatestExact →
    Agree (Trig.sin.tabulated? (x + 180.0)) ((Trig.sin.tabulated? x).map .negated)
  cos_halfTurn : (n + 180).natAbs ≤ greatestExact →
    Agree (Trig.cos.tabulated? (x + 180.0)) ((Trig.cos.tabulated? x).map .negated)
  tan_halfTurn : (n + 180).natAbs ≤ greatestExact →
    Agree (Trig.tan.tabulated? (x + 180.0)) (Trig.tan.tabulated? x)
  cos_complement : (90 - n).natAbs ≤ greatestExact →
    Agree (Trig.cos.tabulated? x) (Trig.sin.tabulated? (90.0 - x))
  tan_undefined_iff : Trig.tan.tabulated? x = some .undefined ↔ IsZero (Trig.cos.tabulated? x)
  tan_zero_iff : IsZero (Trig.tan.tabulated? x) ↔ IsZero (Trig.sin.tabulated? x)

theorem Covered.symmetric (h : Covered x n) : Symmetric x n := by
  have quarter : IsInt 90.0 90 := integer?_eq_some_iff.1 (by decide +kernel)
  have half : IsInt 180.0 180 := integer?_eq_some_iff.1 (by decide +kernel)
  have sin := h.gives .sin
  have cos := h.gives .cos
  have tan := h.gives .tan
  refine
    { turn := fun range f => ?_
      sin_neg := ?_
      cos_neg := ?_
      tan_neg := ?_
      sin_halfTurn := fun range => ?_
      cos_halfTurn := fun range => ?_
      tan_halfTurn := fun range => ?_
      cos_complement := fun range => ?_
      tan_undefined_iff := ?_
      tan_zero_iff := ?_ }
  · have repeats : f.Repeats (n + 360) n := by cases f <;> simp only [Repeats] <;> omega
    have shifted := (h.add isInt_turn range).gives f
    rw [real?_eq_of_repeats repeats] at shifted
    exact shifted.same (h.gives f)
  · exact (real?_sin_neg n ▸ h.neg.gives .sin).same sin.negated
  · have repeats : Trig.cos.Repeats (-n) n := .inr (by omega)
    exact (real?_eq_of_repeats repeats ▸ h.neg.gives .cos).same cos
  · exact (real?_tan_neg n ▸ h.neg.gives .tan).same tan.negated
  · exact (real?_sin_halfTurn n ▸ (h.add half range).gives .sin).same sin.negated
  · exact (real?_cos_halfTurn n ▸ (h.add half range).gives .cos).same cos.negated
  · have repeats : Trig.tan.Repeats (n + 180) n := by simp only [Repeats]; omega
    exact (real?_eq_of_repeats repeats ▸ (h.add half range).gives .tan).same tan
  · exact cos.same (real?_sin_complement n ▸ (h.rsub quarter range).gives .sin)
  · rw [tan.undefined_iff, real?_tan_eq_none_iff, cos.isZero_iff (.inl rfl)]
  · rw [tan.isZero_iff (.inl rfl), real?_tan_eq_zero_iff, sin.isZero_iff (.inl rfl)]

theorem apply_eq_undefined_iff (lib : Elementary) (unit : AngleUnit) (f : Trig) (x : Float) :
    f.apply lib unit x = .undefined ↔
      unit = .degrees ∧ f.tabulated? x = some .undefined := by
  cases unit with
  | degrees => cases found : f.tabulated? x <;> simp [apply, computed, found]
  | radians => simp [apply, computed]

/-- Whole degrees are looked up as far as all of them are numbers. What is found is exact, it is
found wherever it is simple, and it has the symmetries of the functions. At any other number nothing
is found, so that a function of an angle is undefined at the poles of the tangent only. -/
theorem tabulated?_laws (lib : Elementary) :
    (∀ x n, Covered x n → Symmetric x n ∧
      ∀ f : Trig, Gives f.simpleSizes (f.real? (degrees n)) (f.tabulated? x)) ∧
    (∀ x, (∀ n, ¬Covered x n) → ∀ f : Trig, f.tabulated? x = none) ∧
    ∀ unit (f : Trig) x, f.apply lib unit x = .undefined ↔
      unit = .degrees ∧ f = .tan ∧ ∃ k, Covered x (90 * (2 * k + 1)) := by
  refine ⟨fun x n h => ⟨h.symmetric, h.gives⟩, fun x => tabulated?_of_not_covered, ?_⟩
  intro unit f x
  rw [apply_eq_undefined_iff]
  refine and_congr_right fun _ => ?_
  by_cases covered : ∃ n, Covered x n
  · obtain ⟨n, h⟩ := covered
    rw [(h.gives f).undefined_iff, real?_eq_none_iff]
    refine and_congr_right fun _ => ⟨?_, ?_⟩
    · rintro ⟨k, rfl⟩
      exact ⟨k, h⟩
    · rintro ⟨k, h'⟩
      exact ⟨k, h.unique h'⟩
  · rw [not_exists] at covered
    rw [tabulated?_of_not_covered covered]
    exact iff_of_false nofun fun ⟨_, k, h⟩ => covered _ h

/-- The odd multiple of ninety that is nearest to the end of the range, and an angle that is no
whole number of degrees. -/
theorem tabulated?_laws_last_pole :
    Covered (-8999999999999910.0) (-8999999999999910) ∧
    Trig.tan.tabulated? (-8999999999999910.0) = some .undefined ∧
    IsZero (Trig.cos.tabulated? (-8999999999999910.0)) ∧
    Agree (Trig.sin.tabulated? (-8999999999999910.0 + 180.0))
      ((Trig.sin.tabulated? (-8999999999999910.0)).map .negated) ∧
    Trig.tan.apply .native .degrees (-8999999999999910.0) = .undefined ∧
    (∀ n, ¬Covered 0.5 n) ∧ ∀ f : Trig, f.tabulated? 0.5 = none := by
  obtain ⟨laws, elsewhere, undefined⟩ := tabulated?_laws .native
  have covered : Covered (-8999999999999910.0) (-8999999999999910) :=
    ⟨integer?_eq_some_iff.1 (by decide +kernel), by decide⟩
  have fractional : ∀ n, ¬Covered 0.5 n := by
    intro n h
    have none : integer? 0.5 = none := by decide +kernel
    rw [integer?_eq_some_iff.2 h.number] at none
    cases none
  have pole : Trig.tan.tabulated? (-8999999999999910.0) = some .undefined := by decide +kernel
  have odd : (90 * (2 * -50000000000000 + 1) : ℤ) = -8999999999999910 := by norm_num
  have symmetric := (laws _ _ covered).1
  exact ⟨covered, pole, symmetric.tan_undefined_iff.1 pole, symmetric.sin_halfTurn (by decide),
    (undefined .degrees .tan _).2 ⟨rfl, rfl, _, odd ▸ covered⟩, fractional,
    elsewhere _ fractional⟩

end Trig

end Calculator

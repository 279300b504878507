import Calculator.Number.Decimal

/-! The fewest digits that determine a floating-point number. The reals that round to a number form
an interval around it; a decimal grid is fine enough when one of the number's two neighbours on it
lies in the interval. Grids are tried from the coarsest on, and the number itself lies on the grid
of its own decimal places, so the search ends there at the latest. -/
namespace Calculator.Number

structure Neighbourhood where
  low : Nat
  high : Nat
  closed : Bool
  deriving DecidableEq, Repr

def Neighbourhood.contains (s : Neighbourhood) (n : Nat) : Bool :=
  if s.closed then s.low ≤ n && n ≤ s.high else s.low < n && n < s.high

/-- The reals that round to `b`, in quarters of the unit of `Decimal.ofBinary b`. Each side reaches
half way to the next number. The number below a power of two is only half as far away as the one
above it. An end rounds to the even mantissa. -/
def Binary.neighbourhood (b : Binary) : Neighbourhood :=
  let step := Nat.pow 2 b.exponent.toNat * Nat.pow 5 (-b.exponent).toNat
  let centre := 4 * (Decimal.ofBinary b).units
  { low := centre - (if b.mantissa = Nat.pow 2 52 ∧ -1074 < b.exponent then step else 2 * step)
    high := centre + 2 * step
    closed := b.mantissa % 2 = 0 }

/-- The nearer of the neighbours of `n` on the grid of multiples of `grid` that lie in `s`, if there
is one. Half way between them the greater one is taken. -/
def gridPoint? (s : Neighbourhood) (n grid : Nat) : Option Nat :=
  let below := n / grid * grid
  let above := below + grid
  match s.contains (4 * below), s.contains (4 * above) with
  | true, true => some (if 2 * (n - below) < grid then below else above)
  | true, false => some below
  | false, true => some above
  | false, false => none

/-- The first grid that has a point in `s` gives it. The powers of ten are tried downwards from
`10 ^ k`; on the last grid `n` itself is the point. -/
def coarsestPoint (s : Neighbourhood) (n : Nat) : Nat → Nat
  | 0 => n
  | k + 1 =>
    match gridPoint? s n (Nat.pow 10 (k + 1)) with
    | some point => point
    | none => coarsestPoint s n k

/-- The decimal fraction of fewest digits that rounds to `b`, sign apart, and of these the nearest.
-/
def Binary.shortest (b : Binary) : Decimal :=
  let exact := Decimal.ofBinary b
  { exact with
    units := coarsestPoint b.neighbourhood exact.units (Nat.toDigits 10 exact.units).length }

theorem coarsestPoint_eq_or_contains (s : Neighbourhood) (n k : Nat) :
    coarsestPoint s n k = n ∨ s.contains (4 * coarsestPoint s n k) := by
  induction k with
  | zero => exact .inl rfl
  | succ k ih =>
    simp only [coarsestPoint]
    split
    · rename_i point h
      right
      simp only [gridPoint?] at h
      split at h <;> simp at h <;> (try split at h) <;> simp_all
    · exact ih

end Calculator.Number

import Calculator.Proofs.Trees

/-! The working of a text, read again. The line of its tokens has a blank between any two of them,
so none goes on into the next one and the line has the same tokens. The text of its tree is the text
of an expression, whose tree is the first one but for the minuses of bases (`Expr.IsSettling`). -/
namespace Calculator

open Number

/-- A finite number whose sign bit is not set. Digits stand for such numbers only. -/
def Number.IsUnsigned (x : Float) : Prop := x.isFinite ∧ (Binary.ofFloat x).negative = false

instance (x : Float) : Decidable (IsUnsigned x) := inferInstanceAs (Decidable (_ ∧ _))

theorem Number.IsUnsigned.exists_nthFloat {x : Float} (h : IsUnsigned x) :
    ∃ n < finiteCount, x = nthFloat n :=
  Number.exists_nthFloat h.1 h.2

theorem Number.isUnsigned_nthFloat {n : ℕ} (lt : n < finiteCount) : IsUnsigned (nthFloat n) := by
  have bits := toBits_nthFloat lt.le
  refine ⟨(isFinite_nthFloat lt.le).2 lt, (ofFloat_of_toBits_lt ?_).1⟩
  rw [finiteCount] at lt
  omega

namespace Token

def numbers (tokens : List Token) : List Float :=
  tokens.filterMap fun
    | .number x => some x
    | _ => none

theorem mem_numbers_iff {tokens : List Token} {x : Float} :
    x ∈ numbers tokens ↔ .number x ∈ tokens := by
  rw [numbers, List.mem_filterMap]
  constructor
  · rintro ⟨t, mem, eq⟩
    cases t <;> cases eq
    exact mem
  · exact fun mem => ⟨_, mem, rfl⟩

theorem Scans.text {t : Token} (line : t.isStop = false)
    (unsigned : ∀ x, t = .number x → IsUnsigned x) : Scans t.text [t] := by
  cases t with
  | number x =>
    obtain ⟨n, lt, rfl⟩ := (unsigned x rfl).exists_nthFloat
    exact .plain lt
  | word w => exact .name w
  | operator op => exact Calculation.scans_operator .nil
  | opening | closing => exact .symbol rfl .nil
  | stop => cases line

/-- A blank after a token separates it from the tokens that follow. -/
theorem scans_lineText {tokens : List Token} (line : ∀ t ∈ tokens, t.isStop = false)
    (unsigned : ∀ x ∈ numbers tokens, IsUnsigned x) : Scans (lineText tokens) tokens := by
  have whole : tokens.filter (!·.isStop) = tokens :=
    List.filter_eq_self.2 fun t mem => by simp [line t mem]
  rw [lineText, whole]
  simp only [mem_numbers_iff] at unsigned
  clear whole
  induction tokens with
  | nil => exact .nil
  | cons t tokens ih =>
    have first : Scans t.text [t] :=
      .text (line t (List.mem_cons_self ..)) fun x eq => unsigned x (eq ▸ List.mem_cons_self ..)
    have after := ih (fun t mem => line t (.tail _ mem)) fun x mem => unsigned x (.tail _ mem)
    cases tokens with
    | nil => simpa [List.intercalate] using first
    | cons t' tokens =>
      have separated : Scans (' ' :: [' '].intercalate ((t' :: tokens).map Token.text))
          (t' :: tokens) := .blank rfl after
      have all := first.append (Avoids.cons_iff.2 rfl) separated
      simpa [List.intercalate] using all

theorem lineText_append_stop (tokens : List Token) :
    lineText (tokens ++ [.stop]) = lineText tokens := by
  simp [lineText, isStop]

theorem isStop_of_mem_line {tokens : List Token} {t : Token} (mem : t ∈ line tokens) :
    t.isStop = false := by
  simpa using List.mem_takeWhile_imp mem

theorem isUnsigned_of_scanFrom {position : ℕ} {cs : List Char} {tokens : List Token}
    (h : scanFrom position cs = .ok tokens) {x : Float} (mem : x ∈ numbers tokens)
    (finite : x.isFinite) : IsUnsigned x := by
  obtain ⟨place, -, -, rfl⟩ := exists_suffix_of_mem position cs tokens h (mem_numbers_iff.1 mem)
  obtain ⟨n, lt, eq⟩ := exists_nthFloat_of_numberOf finite
  rw [eq]
  exact isUnsigned_nthFloat lt

/-- A line of tokens is written as a text with these tokens. So the tokens of any text without an
overflow are those of their line, which is a part of the working. -/
theorem scan_lineText :
    (∀ tokens : List Token, (∀ t ∈ tokens, t.isStop = false) →
      (∀ x ∈ numbers tokens, IsUnsigned x) →
      scan (String.ofList (lineText tokens)) = .ok (tokens ++ [.stop])) ∧
    ∀ (s : String) (tokens : List Token), scan s = .ok tokens →
      (∀ x ∈ numbers tokens, x.isFinite) →
      scan (String.ofList (lineText tokens)) = .ok tokens ∧
        ∀ w, Working.of s = .ok w → scan w.tokens = .ok tokens := by
  have scanned : ∀ tokens : List Token, (∀ t ∈ tokens, t.isStop = false) →
      (∀ x ∈ numbers tokens, IsUnsigned x) →
      scan (String.ofList (lineText tokens)) = .ok (tokens ++ [.stop]) := by
    intro tokens line unsigned
    rw [scan, String.toList_ofList]
    exact scans_lineText line unsigned 0
  refine ⟨scanned, fun s tokens h finite => ?_⟩
  have eq := eq_line_of_scanFrom h
  have again : scan (String.ofList (lineText tokens)) = .ok tokens := by
    rw [eq, lineText_append_stop]
    refine scanned _ (fun t mem => isStop_of_mem_line mem) fun x mem => ?_
    have mem' : x ∈ numbers tokens :=
      mem_numbers_iff.2 ((List.takeWhile_prefix _).subset (mem_numbers_iff.1 mem))
    exact isUnsigned_of_scanFrom h mem' (finite x mem')
  refine ⟨again, fun w working => ?_⟩
  rw [Calculation.working_eq, Calculation.read_eq, h] at working
  obtain ⟨r, reads, rfl⟩ := map_eq_ok working
  obtain ⟨e, -, rfl⟩ := map_eq_ok reads
  exact again

/-- A number before the constant `e`, before a sign and before another number. -/
theorem scan_lineText_neighbours :
    let tokens : List Token := [.number 2.0, .word (.constant .e), .number 1e300,
      .operator .subtract, .number 5e-324, .number 0.5]
    scan (String.ofList (lineText tokens)) = .ok (tokens ++ [.stop]) ∧
      scan "ln ( 2 ) - 1000000000000000000000 / 0.5" = scan "LN(2)-1E21/.5" := by
  intro tokens
  have scanned : scan "LN(2)-1E21/.5" = .ok [.word (.function .ln), .opening, .number 2.0,
      .closing, .operator .subtract, .number 1e21, .operator .divide, .number 0.5, .stop] := by
    decide +kernel
  have working : Working.of "LN(2)-1E21/.5" = .ok
      ⟨"ln ( 2 ) - 1000000000000000000000 / 0.5", "(ln(2) - (1000000000000000000000 / 0.5))"⟩ := by
    decide +kernel
  refine ⟨scan_lineText.1 tokens (by decide) (by decide +kernel), ?_⟩
  rw [scanned]
  exact (scan_lineText.2 _ _ scanned (by decide +kernel)).2 _ working

end Token

namespace Expr

theorem minuses_negated (count : ℕ) (e : Expr) :
    (negated count e).minuses = count + e.minuses := by
  induction count with
  | zero => rw [negated, Nat.zero_add]
  | succ count ih => rw [negated, minuses, ih, Nat.add_right_comm]

theorem settled_negated (count : ℕ) (e : Expr) :
    (negated count e).settled = negated count e.settled := by
  induction count with
  | zero => rfl
  | succ count ih => rw [negated, settled, ih, negated]

/-- A tree is some minuses in front of one that is no minus. -/
theorem exists_negated (e : Expr) : ∃ core, core.minuses = 0 ∧ e = negated e.minuses core := by
  induction e with
  | negate operand ih =>
    obtain ⟨core, bare, eq⟩ := ih
    exact ⟨core, bare, congrArg Expr.negate eq⟩
  | number x => exact ⟨_, rfl, rfl⟩
  | constant c => exact ⟨_, rfl, rfl⟩
  | binary op left right => exact ⟨_, rfl, rfl⟩
  | call f argument => exact ⟨_, rfl, rfl⟩

/-- The map takes the minuses of a base in front of the power and changes nothing else. -/
structure IsSettling (map : Expr → Expr) : Prop where
  number : ∀ x, map (.number x) = .number x
  constant : ∀ c, map (.constant c) = .constant c
  negate : ∀ operand, map (.negate operand) = .negate (map operand)
  binary : ∀ op left right, op ≠ .power →
    map (.binary op left right) = .binary op (map left) (map right)
  power : ∀ count base exponent, base.minuses = 0 →
    map (.binary .power (negated count base) exponent) =
      negated count (.binary .power (map base) (map exponent))
  call : ∀ f argument, map (.call f argument) = .call f (map argument)

theorem isSettling_settled : IsSettling settled where
  number _ := rfl
  constant _ := rfl
  negate _ := rfl
  binary op left right other := by rw [settled, if_neg other]
  power count base exponent bare := by
    rw [settled, if_pos rfl, settled_negated, minuses_negated, bare, Nat.add_zero,
      stripped_negated]
  call _ _ := rfl

namespace IsSettling

variable {map : Expr → Expr}

theorem map_negated (h : IsSettling map) (count : ℕ) (e : Expr) :
    map (negated count e) = negated count (map e) := by
  induction count with
  | zero => rfl
  | succ count ih => rw [negated, h.negate, ih, negated]

theorem eq_settled (h : IsSettling map) (e : Expr) : map e = e.settled := by
  induction e with
  | number x => exact h.number x
  | constant c => exact h.constant c
  | negate operand ih => rw [h.negate, ih, settled]
  | binary op left right ihl ihr =>
    by_cases power : op = .power
    · obtain ⟨base, bare, eq⟩ := left.exists_negated
      have core : map base = stripped left.minuses left.settled := by
        rw [← ihl, eq, h.map_negated, ← eq, stripped_negated]
      rw [settled, if_pos power, power, ← core, ← ihr, eq, h.power _ _ _ bare, ← eq]
    · rw [h.binary _ _ _ power, ihl, ihr, settled, if_neg power]
  | call f argument ih => rw [h.call, ih, settled]

end IsSettling

theorem not_hasNegatedBase {e : Expr} (h : e.settled = e) : ¬e.HasNegatedBase := by
  induction e with
  | number x => exact id
  | constant c => exact id
  | negate operand ih => exact ih (Expr.negate.inj h)
  | binary op left right ihl ihr =>
    rw [settled] at h
    have parts : (op = .power → left.minuses = 0) ∧ left.settled = left ∧
        right.settled = right := by
      split at h
      · cases minuses : left.minuses with
        | zero =>
          rw [minuses, stripped_zero] at h
          obtain ⟨-, left, right⟩ := Expr.binary.inj h
          exact ⟨fun _ => rfl, left, right⟩
        | succ count =>
          rw [minuses] at h
          cases h
      · rename_i other
        obtain ⟨-, left, right⟩ := Expr.binary.inj h
        exact ⟨fun power => absurd power other, left, right⟩
    rintro (⟨power, some⟩ | inLeft | inRight)
    · exact absurd (parts.1 power) some.ne'
    · exact ihl parts.2.1 inLeft
    · exact ihr parts.2.2 inRight
  | call f argument ih => exact ih (Expr.call.inj h).2

theorem settled_eq_self_iff {e : Expr} : e.settled = e ↔ ¬e.HasNegatedBase :=
  ⟨not_hasNegatedBase, settled_eq_self⟩

/-- The text of a tree is always an expression. Its tree is the first one with the minuses of every
base in front of the power, which is the first one itself if no base has a minus. -/
theorem read_text {map : Expr → Expr} (settling : IsSettling map) {e : Expr}
    (unsigned : ∀ x ∈ e.literals, IsUnsigned x) :
    (Calculation.read (String.ofList e.text)).map (·.2) = .ok (map e) ∧
      ((Calculation.read (String.ofList e.text)).map (·.2) = .ok e ↔ ¬e.HasNegatedBase) := by
  obtain ⟨d, scans, tree⟩ := e.exists_derivation_text fun x mem => (unsigned x mem).exists_nthFloat
  have read : (Calculation.read (String.ofList e.text)).map (·.2) = .ok e.settled := by
    rw [Calculation.read_of_derivation (by rwa [String.toList_ofList]), tree]
    rfl
  rw [read, settling.eq_settled, ← settled_eq_self_iff]
  exact ⟨rfl, Except.ok.inj, congrArg Except.ok⟩

/-- Two minuses under a power of a power, in a call that takes the parentheses of its argument. -/
theorem read_text_minuses :
    let power : Expr := .binary .power (.negate (.negate (.number 2.0))) (.constant .e)
    let e : Expr := .call .ln (.binary .power power (.negate (.number 5e-324)))
    IsSettling settled ∧ (∀ x ∈ e.literals, IsUnsigned x) ∧
      (Calculation.read (String.ofList e.text)).map (·.2) = .ok (.call .ln (.binary .power
        (.negate (.negate (.binary .power (.number 2.0) (.constant .e))))
        (.negate (.number 5e-324)))) ∧
      (Calculation.read (String.ofList e.text)).map (·.2) ≠ .ok e := by
  intro power e
  have unsigned : ∀ x ∈ e.literals, IsUnsigned x := by decide +kernel
  obtain ⟨read, same⟩ := read_text isSettling_settled unsigned
  have negatedBase : e.HasNegatedBase := .inr (.inl (.inl ⟨rfl, by decide⟩))
  exact ⟨isSettling_settled, unsigned, read, fun eq => same.1 eq negatedBase⟩

end Expr

end Calculator

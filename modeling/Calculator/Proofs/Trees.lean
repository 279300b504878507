import Calculator.Proofs.Shortest
import Calculator.Proofs.Texts

/-! The text of a tree, read again. Every operation of two operands stands in parentheses, but a
minus never does, and it binds less tightly than a power. So a tree is read again with the minuses
of every base in front of the power (`Expr.settled`), and with nothing else changed. -/
namespace Calculator

open Number Token

namespace Expr

def minuses : Expr → Nat
  | .negate operand => operand.minuses + 1
  | _ => 0

def negated : Nat → Expr → Expr
  | 0, e => e
  | count + 1, e => .negate (negated count e)

def stripped : Nat → Expr → Expr
  | count + 1, .negate operand => stripped count operand
  | _, e => e

/-- The tree in which the minuses of a base stand in front of the power. -/
def settled : Expr → Expr
  | .number x => .number x
  | .constant c => .constant c
  | .negate operand => .negate operand.settled
  | .binary op left right =>
    if op = .power then
      negated left.minuses (.binary .power (stripped left.minuses left.settled) right.settled)
    else .binary op left.settled right.settled
  | .call f argument => .call f argument.settled

/-- The base of some power has a minus in front. -/
def HasNegatedBase : Expr → Prop
  | .number _ | .constant _ => False
  | .negate operand => operand.HasNegatedBase
  | .binary op left right =>
    (op = .power ∧ 0 < left.minuses) ∨ left.HasNegatedBase ∨ right.HasNegatedBase
  | .call _ argument => argument.HasNegatedBase

@[simp] theorem stripped_zero (e : Expr) : stripped 0 e = e := by cases e <;> rfl

@[simp] theorem stripped_negated (count : Nat) (e : Expr) :
    stripped count (negated count e) = e := by
  induction count with
  | zero => exact stripped_zero e
  | succ count ih => exact ih

theorem settled_eq_self {e : Expr} (h : ¬e.HasNegatedBase) : e.settled = e := by
  induction e with
  | number x => rfl
  | constant c => rfl
  | negate operand ih => exact congrArg Expr.negate (ih h)
  | binary op left right ihl ihr =>
    simp only [HasNegatedBase, not_or, not_and, Nat.not_lt, Nat.le_zero] at h
    obtain ⟨base, hl, hr⟩ := h
    rw [settled, ihl hl, ihr hr]
    split
    · rename_i power
      rw [base power, power, stripped_zero]
      rfl
    · rfl
  | call f argument ih => exact congrArg (Expr.call f) (ih h)

def literals : Expr → List Float
  | .number x => [x]
  | .constant _ => []
  | .negate operand => operand.literals
  | .binary _ left right => left.literals ++ right.literals
  | .call _ argument => argument.literals

end Expr

namespace Grammar

def Signed.negated : Nat → Signed → Signed
  | 0, u => u
  | count + 1, u => .minus (Signed.negated count u)

theorem Signed.tokens_negated (count : Nat) (u : Signed) :
    (Signed.negated count u).tokens = List.replicate count (.operator .subtract) ++ u.tokens := by
  induction count with
  | zero => rfl
  | succ count ih =>
    rw [Signed.negated, Signed.tokens, ih]
    rfl

theorem Signed.tree_negated (count : Nat) (u : Signed) :
    (Signed.negated count u).tree = Expr.negated count u.tree := by
  induction count with
  | zero => rfl
  | succ count ih =>
    rw [Signed.negated, Signed.tree, ih]
    rfl

/-- Two primaries, each after its minuses, with an operator between them. A power takes its base
without them. -/
theorem exists_operation_negated (op : Operator) (k : Nat) (p : Primary) (v : Signed) :
    ∃ d : Sum, d.tokens = (Signed.negated k (.primary p)).tokens ++ .operator op :: v.tokens ∧
      d.tree = if op = .power then Expr.negated k (.binary .power p.tree v.tree)
        else .binary op (Expr.negated k p.tree) v.tree := by
  split
  · rename_i power
    refine ⟨.product (.signed (Signed.negated k (.power p v))), ?_, Signed.tree_negated k _⟩
    rw [power, Sum.tokens, Product.tokens, Signed.tokens_negated, Signed.tokens_negated]
    simp only [Signed.tokens, List.append_assoc]
  · rename_i other
    obtain ⟨d, tokens, tree⟩ := exists_operation other (Signed.negated k (.primary p)) v
    exact ⟨d, tokens, by rw [tree, Signed.tree_negated]; rfl⟩

end Grammar

namespace Token

theorem Scans.blank {c : Char} {rest : List Char} {tokens : List Token} (h : Text.isBlank c)
    (after : Scans rest tokens) : Scans (c :: rest) tokens := by
  intro position
  rw [scanFrom_blank h, after]

theorem Scans.word {letters : List Char} {w : Word} (nonempty : letters ≠ [])
    (all : ∀ c ∈ letters, c.isAlpha) (known : wordOf? (letters.map Char.toLower) = some w) :
    Scans letters [.word w] := by
  intro position
  have run := (Avoids.nil Char.isAlpha).takeWhile_run all
  have done := (Avoids.nil Char.isAlpha).dropWhile_run all
  rw [List.append_nil] at run done
  cases letters with
  | nil => exact absurd rfl nonempty
  | cons c cs =>
    rw [scanFrom_word (all c (List.mem_cons_self ..)), run, done, scanWord, known]
    simp only [scanFrom_nil]
    rfl

theorem Scans.name (w : Word) : Scans w.name.toList [.word w] := by
  have small : w.name.toList.all Char.isAlpha ∧ w.name.toList.map Char.toLower = w.name.toList ∧
      w.name.toList ≠ [] := by
    rcases w with (((_ | _ | _) | _ | _ | _) | (_ | _)) <;> decide
  refine .word small.2.2 (List.all_eq_true.1 small.1) ?_
  rw [small.2.1, wordOf?, String.ofList_toList, Word.ofName?_name]

theorem Scans.plain {n : ℕ} (finite : n < finiteCount) :
    Scans (Number.plain (nthFloat n)) [.number (nthFloat n)] := by
  have scans := Scans.numeral (isNumeral_plain finite) (.nil _) .nil
  rw [List.append_nil, numberOf_plain finite] at scans
  exact scans

end Token

namespace Expr

open Grammar

theorem scans_operation {left right : Expr} {u v : List Token} (op : Operator)
    (hl : Scans left.text u) (hr : Scans right.text v) :
    Scans (left.text ++ [' ', op.symbol, ' '] ++ right.text) (u ++ .operator op :: v) := by
  have after : Scans (' ' :: op.symbol :: ' ' :: right.text) (.operator op :: v) :=
    .blank rfl (Calculation.scans_operator (.blank rfl hr))
  have all := hl.append (Avoids.cons_iff.2 rfl) after
  simpa using all

theorem avoids_of_isBinary {e : Expr} (h : e.isBinary) : Avoids joins e.text := by
  cases e with
  | binary op left right => exact Avoids.cons_iff.2 rfl
  | _ => cases h

/-- The primary `p` is what remains of the text of `e` after its minuses. -/
structure IsCore (e : Expr) (p : Primary) : Prop where
  scans : Scans e.text (Signed.negated e.minuses (.primary p)).tokens
  tree : negated e.minuses p.tree = e.settled

theorem IsCore.binary {left right : Expr} {p q : Primary} (op : Operator) (hl : left.IsCore p)
    (hr : right.IsCore q) : ∃ d : Sum, (Expr.binary op left right).IsCore (.group d) := by
  obtain ⟨d, tokens, tree⟩ :=
    exists_operation_negated op left.minuses p (Signed.negated right.minuses (.primary q))
  refine ⟨d, ?_, ?_⟩
  · have scans := Calculation.scans_group (scans_operation op hl.scans hr.scans) .nil
    rw [← tokens] at scans
    simpa [text, minuses, Signed.negated, Signed.tokens, Primary.tokens] using scans
  · have base : stripped left.minuses left.settled = p.tree := by
      rw [← hl.tree, stripped_negated]
    rw [Signed.tree_negated, Signed.tree] at tree
    rw [settled, base, ← hl.tree, ← hr.tree]
    exact tree

/-- The parentheses of an operation are those of the call around it. -/
theorem IsCore.call_binary {argument : Expr} {d : Sum} (f : Function) (binary : argument.isBinary)
    (h : argument.IsCore (.group d)) : (Expr.call f argument).IsCore (.call f d) := by
  have bare : argument.minuses = 0 := by cases argument <;> first | rfl | cases binary
  obtain ⟨scans, tree⟩ := h
  rw [bare] at scans tree
  refine ⟨?_, congrArg (Expr.call f) tree⟩
  have all := (Scans.name (.function f)).append (avoids_of_isBinary binary) scans
  simpa [text, binary, Word.name, minuses, Signed.negated, Signed.tokens, Primary.tokens] using all

theorem IsCore.call {argument : Expr} {p : Primary} (f : Function) (other : ¬argument.isBinary)
    (h : argument.IsCore p) : (Expr.call f argument).IsCore
      (.call f (.product (.signed (.negated argument.minuses (.primary p))))) := by
  refine ⟨?_, congrArg (Expr.call f) ((Signed.tree_negated _ _).trans h.tree)⟩
  have all := (Scans.name (.function f)).append (Avoids.cons_iff.2 rfl)
    (Calculation.scans_group h.scans .nil)
  simpa [text, other, Word.name, minuses, Signed.negated, Signed.tokens, Primary.tokens,
    Sum.tokens, Product.tokens] using all

/-- A text is some minuses and a primary, which is a group for an operation of two operands. -/
theorem exists_isCore (e : Expr)
    (written : ∀ x ∈ e.literals, ∃ n < finiteCount, x = nthFloat n) :
    ∃ p : Primary, e.IsCore p ∧ (e.isBinary → ∃ d, p = .group d) := by
  induction e with
  | number x =>
    obtain ⟨n, finite, rfl⟩ := written x (List.mem_singleton_self x)
    exact ⟨.number (nthFloat n), ⟨.plain finite, rfl⟩, nofun⟩
  | constant c => exact ⟨.constant c, ⟨.name (.constant c), rfl⟩, nofun⟩
  | negate operand ih =>
    obtain ⟨p, core, -⟩ := ih written
    exact ⟨p, ⟨.symbol rfl core.scans, congrArg Expr.negate core.tree⟩, nofun⟩
  | binary op left right ihl ihr =>
    obtain ⟨p, coreLeft, -⟩ := ihl fun x mem => written x (List.mem_append_left _ mem)
    obtain ⟨q, coreRight, -⟩ := ihr fun x mem => written x (List.mem_append_right _ mem)
    obtain ⟨d, core⟩ := coreLeft.binary op coreRight
    exact ⟨.group d, core, fun _ => ⟨d, rfl⟩⟩
  | call f argument ih =>
    obtain ⟨p, core, group⟩ := ih written
    by_cases binary : argument.isBinary
    · obtain ⟨d, rfl⟩ := group binary
      exact ⟨_, core.call_binary f binary, nofun⟩
    · exact ⟨_, core.call f binary, nofun⟩

theorem exists_derivation_text {e : Expr}
    (written : ∀ x ∈ e.literals, ∃ n < finiteCount, x = nthFloat n) :
    ∃ d : Sum, Scans e.text d.tokens ∧ d.tree = e.settled := by
  obtain ⟨p, core, -⟩ := exists_isCore e written
  refine ⟨.product (.signed (.negated e.minuses (.primary p))), core.scans, ?_⟩
  exact (Signed.tree_negated _ _).trans core.tree

end Expr

theorem Token.exists_nthFloat_of_numberOf {lexeme : List Char} (h : (numberOf lexeme).isFinite) :
    ∃ n < finiteCount, numberOf lexeme = nthFloat n := by
  unfold numberOf at *
  split at h
  · rename_i numeral read
    obtain ⟨m, -, value⟩ := numeral.exists_value
    rw [value, isFinite_nthFloat (min_le_right _ _)] at h
    exact ⟨_, h, value⟩
  · exact absurd h (by decide +kernel)

/-- The numbers of a text are those of the numerals that start in it. -/
theorem Token.exists_suffix_of_mem {x : Float} (position : Nat) (cs : List Char) :
    ∀ tokens, scanFrom position cs = .ok tokens → .number x ∈ tokens →
      ∃ rest, rest <:+ cs ∧ Numeral.starts rest ∧ x = numberOf (Numeral.split rest).1 := by
  fun_induction scanFrom position cs with
  | case1 position =>
    intro tokens h mem
    cases h
    simp at mem
  | case2 position c rest blank ih =>
    intro tokens h mem
    obtain ⟨place, suffix, numeral⟩ := ih tokens h mem
    exact ⟨place, suffix.trans (List.suffix_cons c rest), numeral⟩
  | case3 position c rest blank t symbol ih =>
    intro tokens h mem
    obtain ⟨after, scanned, rfl⟩ := map_eq_ok h
    rcases List.mem_cons.1 mem with rfl | mem
    · simp only [ofSymbol?] at symbol
      split at symbol <;> simp at symbol
    · obtain ⟨place, suffix, numeral⟩ := ih after scanned mem
      exact ⟨place, suffix.trans (List.suffix_cons c rest), numeral⟩
  | case4 position c rest blank symbol numeral lexeme ih =>
    intro tokens h mem
    obtain ⟨after, scanned, rfl⟩ := map_eq_ok h
    rcases List.mem_cons.1 mem with same | mem
    · exact ⟨c :: rest, List.suffix_rfl, numeral, Token.number.inj same⟩
    · obtain ⟨place, suffix, numeral⟩ := ih after scanned mem
      exact ⟨place, suffix.trans ⟨_, Numeral.split_append _⟩, numeral⟩
  | case5 position c rest blank symbol numeral letter letters w word ih =>
    intro tokens h mem
    obtain ⟨after, scanned, rfl⟩ := map_eq_ok h
    rcases List.mem_cons.1 mem with same | mem
    · cases same
    · obtain ⟨place, suffix, numeral⟩ := ih after scanned mem
      exact ⟨place, suffix.trans (List.dropWhile_suffix _), numeral⟩
  | case6 | case7 =>
    intro tokens h
    cases h

namespace Grammar

mutual

theorem Sum.mem_tokens {x : Float} : (d : Sum) → x ∈ d.tree.literals → .number x ∈ d.tokens
  | .product p => fun mem => p.mem_tokens mem
  | .step left op _ right => fun mem => by
    rcases List.mem_append.1 mem with mem | mem
    · exact List.mem_append_left _ (left.mem_tokens mem)
    · exact List.mem_append_right _ (.tail _ (right.mem_tokens mem))

theorem Product.mem_tokens {x : Float} : (p : Product) → x ∈ p.tree.literals → .number x ∈ p.tokens
  | .signed u => fun mem => u.mem_tokens mem
  | .step left op _ right => fun mem => by
    rcases List.mem_append.1 mem with mem | mem
    · exact List.mem_append_left _ (left.mem_tokens mem)
    · exact List.mem_append_right _ (.tail _ (right.mem_tokens mem))

theorem Signed.mem_tokens {x : Float} : (u : Signed) → x ∈ u.tree.literals → .number x ∈ u.tokens
  | .minus operand => fun mem => .tail _ (operand.mem_tokens mem)
  | .primary p => fun mem => p.mem_tokens mem
  | .power base exponent => fun mem => by
    rcases List.mem_append.1 mem with mem | mem
    · exact List.mem_append_left _ (base.mem_tokens mem)
    · exact List.mem_append_right _ (.tail _ (exponent.mem_tokens mem))

theorem Primary.mem_tokens {x : Float} :
    (p : Primary) → x ∈ p.tree.literals → .number x ∈ p.tokens
  | .number y => fun mem => by
    obtain rfl := List.mem_singleton.1 mem
    exact List.mem_singleton_self _
  | .constant c => nofun
  | .call f argument => fun mem =>
    .tail _ (.tail _ (List.mem_append_left _ (argument.mem_tokens mem)))
  | .group inner => fun mem => .tail _ (List.mem_append_left _ (inner.mem_tokens mem))

end

end Grammar

namespace Calculation

open Grammar

/-- The numbers of an expression are among the tokens of its text. -/
theorem exists_scan_of_read {s : String} {tokens : List Token} {e : Expr} {x : Float}
    (h : read s = .ok (tokens, e)) (mem : x ∈ e.literals) :
    ∃ line, Token.scan s = .ok line ∧ .number x ∈ line := by
  obtain ⟨d, scans, rfl⟩ := exists_derivation h
  exact ⟨_, scans 0, List.mem_append_left _ (d.mem_tokens mem)⟩

/-- The numbers of a text that is read have no sign. -/
theorem exists_nthFloat_of_read {s : String} {tokens : List Token} {e : Expr} {x : Float}
    (h : read s = .ok (tokens, e)) (mem : x ∈ e.literals) (finite : x.isFinite) :
    ∃ n < finiteCount, x = nthFloat n := by
  obtain ⟨line, scans, mem⟩ := exists_scan_of_read h mem
  obtain ⟨place, -, -, rfl⟩ := Token.exists_suffix_of_mem 0 _ _ scans mem
  exact Token.exists_nthFloat_of_numberOf finite

theorem working_eq (s : String) : Working.of s = (read s).map fun r =>
    ⟨String.ofList (Token.lineText r.1), String.ofList r.2.text⟩ := rfl

/-- The tree that is shown, evaluated as a text, has the value of the tree with the minuses of its
bases in front of their powers. This is the value of the text itself if no base has a minus. -/
theorem evaluate_tree {s : String} {w : Working} (shown : Working.of s = .ok w)
    (finite : ∀ tokens e, read s = .ok (tokens, e) → ∀ x ∈ e.literals, x.isFinite) :
    ∃ tokens e, read s = .ok (tokens, e) ∧ ∀ lib unit,
      evaluate lib unit w.tree = (e.settled.evaluate lib unit).mapError .evaluation ∧
      (¬e.HasNegatedBase → evaluate lib unit w.tree = evaluate lib unit s) := by
  rw [working_eq] at shown
  obtain ⟨⟨tokens, e⟩, reads, rfl⟩ := map_eq_ok shown
  obtain ⟨d, scans, tree⟩ := e.exists_derivation_text fun x mem =>
    exists_nthFloat_of_read reads mem (finite tokens e reads x mem)
  refine ⟨tokens, e, reads, fun lib unit => ?_⟩
  have settled : evaluate lib unit (String.ofList e.text) =
      (e.settled.evaluate lib unit).mapError .evaluation := by
    rw [← tree]
    exact evaluate_of_derivation (by rwa [String.toList_ofList])
  refine ⟨settled, fun noNegatedBase => ?_⟩
  rw [settled, Expr.settled_eq_self noNegatedBase, evaluate_eq, reads]
  rfl

/-- A base with a minus, which goes in front of the power, and a text without one. -/
theorem evaluate_tree_difference :
    (∀ lib unit, evaluate lib unit "(8 - (-2 ^ 3))" =
      ((Expr.binary .subtract (.number 8.0) (.negate (.binary .power (.number 2.0)
        (.number 3.0)))).evaluate lib unit).mapError .evaluation) ∧
    ∀ lib unit, evaluate lib unit "(-8 / (1 - 5))" = evaluate lib unit "-8/(1-5)" := by
  have law {s : String} {w : Working} {e : Expr} (shown : Working.of s = .ok w)
      (known : (read s).map (·.2) = .ok e) (finite : ∀ x ∈ e.literals, x.isFinite) :
      ∀ lib unit, evaluate lib unit w.tree = (e.settled.evaluate lib unit).mapError .evaluation ∧
        (¬e.HasNegatedBase → evaluate lib unit w.tree = evaluate lib unit s) := by
    have same (tokens : List Token) (e' : Expr) (reads : read s = .ok (tokens, e')) : e' = e := by
      rw [reads] at known
      exact Except.ok.inj known
    obtain ⟨tokens, e', reads, values⟩ :=
      evaluate_tree shown fun tokens e' reads => same tokens e' reads ▸ finite
    exact same tokens e' reads ▸ values
  have power : Working.of "8-(-2)^3" = .ok ⟨"8 - ( - 2 ) ^ 3", "(8 - (-2 ^ 3))"⟩ := by
    decide +kernel
  have powerTree : (read "8-(-2)^3").map (·.2) = .ok (.binary .subtract (.number 8.0)
      (.binary .power (.negate (.number 2.0)) (.number 3.0))) := by decide +kernel
  have quotient : Working.of "-8/(1-5)" = .ok ⟨"- 8 / ( 1 - 5 )", "(-8 / (1 - 5))"⟩ := by
    decide +kernel
  have quotientTree : (read "-8/(1-5)").map (·.2) = .ok (.binary .divide (.negate (.number 8.0))
      (.binary .subtract (.number 1.0) (.number 5.0))) := by decide +kernel
  constructor
  · exact fun lib unit => (law power powerTree (by decide +kernel) lib unit).1
  · exact fun lib unit => (law quotient quotientTree (by decide +kernel) lib unit).2
      (by simp [Expr.HasNegatedBase])

/-- A minus in front of a base is shown without parentheses. -/
theorem evaluate_tree_ne :
    let lib : Elementary := { Elementary.native with power := fun a _ => a * a }
    Working.of "(-2)^2" = .ok ⟨"( - 2 ) ^ 2", "(-2 ^ 2)"⟩ ∧
      (read "(-2)^2").map (fun r => r.2.literals.all (·.isFinite)) = .ok true ∧
      evaluate lib .degrees "(-2 ^ 2)" ≠ evaluate lib .degrees "(-2)^2" := by
  decide +kernel

end Calculation

end Calculator

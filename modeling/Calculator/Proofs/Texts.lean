import Calculator.Calculation
import Calculator.Proofs.Scanning
import Calculator.Proofs.Syntax

/-! Texts with a derivation. The tokens of such a text are those of the derivation, and its value is
that of the tree. -/
namespace Calculator.Grammar

/-- Two signed operands with an operator between them. A power does not take a sign in front of it
along. -/
theorem exists_operation {op : Operator} (h : op ≠ .power) (u v : Signed) :
    ∃ d : Sum, d.tokens = u.tokens ++ .operator op :: v.tokens ∧
      d.tree = .binary op u.tree v.tree := by
  cases op with
  | add => exact ⟨.step (.product (.signed u)) .add (.inl rfl) (.signed v), rfl, rfl⟩
  | subtract => exact ⟨.step (.product (.signed u)) .subtract (.inr rfl) (.signed v), rfl, rfl⟩
  | multiply => exact ⟨.product (.step (.signed u) .multiply (.inl rfl) v), rfl, rfl⟩
  | divide => exact ⟨.product (.step (.signed u) .divide (.inr rfl) v), rfl, rfl⟩
  | power => exact absurd rfl h

theorem exists_operation_of_primaries (op : Operator) (p q : Primary) :
    ∃ d : Sum, d.tokens = p.tokens ++ .operator op :: q.tokens ∧
      d.tree = .binary op p.tree q.tree := by
  by_cases h : op = .power
  · subst h
    exact ⟨.product (.signed (.power p (.primary q))), rfl, rfl⟩
  · exact exists_operation h (.primary p) (.primary q)

end Calculator.Grammar

namespace Calculator.Calculation

open Grammar Token Number

variable {lib : Elementary} {unit : AngleUnit} {s : String}

theorem read_eq : read s = ((scan s).mapError .lexical).bind fun tokens =>
    ((Expr.ofTokens tokens).mapError .syntactic).map fun e => (tokens, e) := rfl

theorem read_of_scans {tokens : List Token} (h : Scans s.toList tokens) :
    read s = ((Expr.ofTokens (tokens ++ [.stop])).mapError .syntactic).map
      fun e => (tokens ++ [.stop], e) := by
  rw [read_eq, scan, h 0]
  rfl

theorem evaluate_eq : evaluate lib unit s =
    (read s).bind fun r => (r.2.evaluate lib unit).mapError .evaluation := rfl

theorem read_of_derivation {d : Sum} (h : Scans s.toList d.tokens) :
    read s = .ok (d.tokens ++ [.stop], d.tree) := by
  rw [read_of_scans h, Expr.ofTokens_tokens d rfl]
  rfl

theorem evaluate_of_derivation {d : Sum} (h : Scans s.toList d.tokens) :
    evaluate lib unit s = (d.tree.evaluate lib unit).mapError .evaluation := by
  rw [evaluate_eq, read_of_derivation h]
  rfl

theorem exists_derivation {r : List Token × Expr} (h : read s = .ok r) :
    ∃ d : Sum, Scans s.toList d.tokens ∧ d.tree = r.2 := by
  rw [read_eq] at h
  obtain ⟨tokens, scanned, h⟩ := bind_eq_ok h
  obtain ⟨e, parsed, rfl⟩ := map_eq_ok h
  obtain ⟨d, eq, tree⟩ := Expr.ofTokens_eq_ok_iff.1 (mapError_eq_ok parsed)
  exact ⟨d, eq ▸ Scans.of_scanFrom (mapError_eq_ok scanned), tree⟩

theorem exists_derivation_of_evaluate {x : Float} (h : evaluate lib unit s = .ok x) :
    ∃ d : Sum, Scans s.toList d.tokens ∧ d.tree.evaluate lib unit = .ok x := by
  rw [evaluate_eq] at h
  obtain ⟨r, reads, h⟩ := bind_eq_ok h
  obtain ⟨d, scans, tree⟩ := exists_derivation reads
  exact ⟨d, scans, by rw [tree]; exact mapError_eq_ok h⟩

theorem isFinite_of_evaluate {x : Float} (h : evaluate lib unit s = .ok x) : x.isFinite := by
  obtain ⟨d, -, h⟩ := exists_derivation_of_evaluate h
  obtain ⟨y, -, h⟩ := bind_eq_ok h
  exact (isFinite_of_finite h).2

theorem scans_operator {op : Operator} {rest : List Char} {tokens : List Token}
    (after : Scans rest tokens) : Scans (op.symbol :: rest) (.operator op :: tokens) :=
  .symbol (ofSymbol?_operator op) after

/-- No expression starts with an operator other than minus. -/
theorem evaluate_operator {op : Operator} (h : op ≠ .subtract) {rest : List Char}
    {tokens : List Token} (after : Scans rest tokens) (text : s.toList = op.symbol :: rest) :
    evaluate lib unit s = .error (.syntactic (.expected .operand (.operator op))) := by
  have scans := @scans_operator op _ _ after
  rw [← text] at scans
  rw [evaluate_eq, read_of_scans scans, List.cons_append, Expr.ofTokens_operator h]
  rfl

theorem scans_group {cs rest : List Char} {inner tokens : List Token} (h : Scans cs inner)
    (after : Scans rest tokens) :
    Scans ('(' :: (cs ++ ')' :: rest)) (.opening :: (inner ++ .closing :: tokens)) := by
  have closing : Scans (')' :: rest) (.closing :: tokens) := .symbol rfl after
  have opening : Scans ('(' :: cs) (.opening :: inner) := .symbol rfl h
  exact opening.append (Avoids.cons_iff.2 rfl) closing

/-- An operation whose two operands have parentheses of their own. -/
def grouped (left : String) (op : Operator) (right : String) : String :=
  "(" ++ left ++ ")" ++ .singleton op.symbol ++ "(" ++ right ++ ")"

theorem scans_grouped {left right : String} {d d' : Sum} (op : Operator)
    (hl : Scans left.toList d.tokens) (hr : Scans right.toList d'.tokens) :
    Scans (grouped left op right).toList
      ((Primary.group d).tokens ++ .operator op :: (Primary.group d').tokens) := by
  have all := scans_group hl (@scans_operator op _ _ (scans_group hr .nil))
  simpa [grouped, Primary.tokens] using all

/-- Parentheses make the values of two texts the operands of an operation. -/
theorem evaluate_grouped {left right : String} {d d' : Sum} (op : Operator)
    (hl : Scans left.toList d.tokens) (hr : Scans right.toList d'.tokens) :
    evaluate lib unit (grouped left op right) =
      ((Expr.binary op d.tree d'.tree).evaluate lib unit).mapError .evaluation := by
  obtain ⟨whole, tokens, tree⟩ := exists_operation_of_primaries op (.group d) (.group d')
  have scans := scans_grouped op hl hr
  rw [← tokens] at scans
  rw [evaluate_of_derivation scans, tree]
  rfl

end Calculator.Calculation

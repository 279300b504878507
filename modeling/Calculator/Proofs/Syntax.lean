import Calculator.Proofs.Automaton

/-! Which lines of tokens are expressions. An accepted line has one derivation in the grammar and
its expression is the tree of it; a line is refused at the first token that no accepted line goes
on with. -/
namespace Calculator.Expr

open Grammar

theorem exists_rest_of_line (tokens : List Token) :
    ∃ rest, tokens = Token.line tokens ++ rest ∧ (found rest).isStop := by
  induction tokens with
  | nil => exact ⟨[], rfl, rfl⟩
  | cons t tokens ih =>
    cases stop : t.isStop with
    | true => exact ⟨t :: tokens, by simp [Token.line, stop], stop⟩
    | false =>
      obtain ⟨rest, eq, ends⟩ := ih
      refine ⟨rest, ?_, ends⟩
      simpa [Token.line, stop] using eq

theorem below_of_isStop {tokens : List Token} (h : (found tokens).isStop) (level : Nat) :
    Below level tokens := by
  intro op first
  rw [first] at h
  cases h

theorem line_append_rest {tokens rest : List Token} (stops : ∀ t ∈ tokens, t.isStop = false)
    (ends : (found rest).isStop) : Token.line (tokens ++ rest) = tokens := by
  rw [Automaton.line_append stops, List.isEmpty_iff.1 ((Automaton.isEmpty_line rest).trans ends),
    List.append_nil]

/-- A derived line is read as the tree of its derivation. -/
theorem ofTokens_tokens (s : Sum) {rest : List Token} (ends : (found rest).isStop) :
    ofTokens (s.tokens ++ rest) = .ok s.tree := by
  obtain ⟨t, tail, eq, -⟩ := s.tokens_eq_cons
  have first : (found (s.tokens ++ rest)).isStop = false := by
    rw [eq]
    exact s.not_stop t (by simp [eq])
  rw [ofTokens_eq, first, s.read (Nat.zero_le 1) (below_of_isStop ends 2),
    readOperators_below (below_of_isStop ends 0)]
  simp [Except.bind, ends]

theorem ofTokens_eq_ok_iff {tokens : List Token} {e : Expr} :
    ofTokens tokens = .ok e ↔ ∃ s : Sum, s.tokens = Token.line tokens ∧ s.tree = e := by
  constructor
  · intro h
    rw [ofTokens_eq] at h
    split at h
    · cases h
    · obtain ⟨⟨result, rest⟩, inside, h⟩ := bind_eq_ok h
      obtain ⟨read, rfl, ⟨s, rfl, rfl⟩, -⟩ := expression_derives (Nat.zero_le 3) inside
      split at h
      · rename_i ends
        exact ⟨s, (line_append_rest s.not_stop ends).symm, Except.ok.inj h⟩
      · cases h
  · rintro ⟨s, eq, rfl⟩
    obtain ⟨rest, split, ends⟩ := exists_rest_of_line tokens
    rw [split, ← eq]
    exact ofTokens_tokens s ends

theorem ofTokens_operator {op : Operator} (h : op ≠ .subtract) (tokens : List Token) :
    ofTokens (.operator op :: tokens) = .error (.expected .operand (.operator op)) := by
  have line : Token.line (.operator op :: tokens) = .operator op :: Token.line tokens := by
    simp [Token.line, Token.isStop]
  rw [← Automaton.verdict_eq_error_iff, line]
  cases op with
  | subtract => exact absurd rfl h
  | _ => rfl

/-- Only the tokens before the first stop mark count, for an error as well. -/
theorem ofTokens_congr {tokens tokens' : List Token}
    (same : Token.line tokens = Token.line tokens') : ofTokens tokens = ofTokens tokens' := by
  cases h : ofTokens tokens with
  | ok e => exact (ofTokens_eq_ok_iff.2 (same ▸ ofTokens_eq_ok_iff.1 h)).symm
  | error error =>
    rw [← Automaton.verdict_eq_error_iff, same, Automaton.verdict_eq_error_iff] at h
    exact h.symm

/-- A list of tokens is read as `e` exactly when the grammar derives the tokens before the first
stop mark with the tree `e`; there is one derivation at most; what follows the stop mark changes
neither the tree nor the error. -/
theorem ofTokens_eq_ok_iff_derivation (tokens : List Token) :
    (∀ e, ofTokens tokens = .ok e ↔ ∃ s : Sum, s.tokens = Token.line tokens ∧ s.tree = e) ∧
      (∀ s s' : Sum, s.tokens = s'.tokens → s = s') ∧
        ∀ after, ofTokens (tokens ++ .stop :: after) = ofTokens tokens :=
  ⟨fun _ => ofTokens_eq_ok_iff, fun _ _ => Sum.tokens_injective,
    fun after => ofTokens_congr (Token.line_append_stop tokens after)⟩

end Calculator.Expr

import Calculator.Proofs.Scanning
import Calculator.Proofs.Syntax
import Calculator.Proofs.Tracing
import Calculator.Session

/-! How deep the reader of expressions nests. Every call of its function for expressions but the
first follows a token of its own that was passed, so a line of `n` tokens takes `n + 1` calls at
most, nested or not, and its tree is no higher than `n`. -/
namespace Calculator

open Token

namespace Grammar

mutual

theorem Sum.height_tree_le : (d : Sum) → d.tree.height ≤ d.tokens.length
  | .product p => p.height_tree_le
  | .step left op _ right => by
    have hl := left.height_tree_le
    have hr := right.height_tree_le
    simp only [Sum.tree, Sum.tokens, Expr.height, List.length_append, List.length_cons]
    omega

theorem Product.height_tree_le : (p : Product) → p.tree.height ≤ p.tokens.length
  | .signed u => u.height_tree_le
  | .step left op _ right => by
    have hl := left.height_tree_le
    have hr := right.height_tree_le
    simp only [Product.tree, Product.tokens, Expr.height, List.length_append, List.length_cons]
    omega

theorem Signed.height_tree_le : (u : Signed) → u.tree.height ≤ u.tokens.length
  | .minus operand => Nat.succ_le_succ operand.height_tree_le
  | .primary p => p.height_tree_le
  | .power base exponent => by
    have hb := base.height_tree_le
    have he := exponent.height_tree_le
    simp only [Signed.tree, Signed.tokens, Expr.height, List.length_append, List.length_cons]
    omega

theorem Primary.height_tree_le : (p : Primary) → p.tree.height ≤ p.tokens.length
  | .number _ | .constant _ => Nat.le_refl 1
  | .call f argument => by
    have ha := argument.height_tree_le
    simp only [Primary.tree, Primary.tokens, Expr.height, List.length_cons, List.length_append,
      List.length_nil]
    omega
  | .group inner => by
    have hi := inner.height_tree_le
    simp only [Primary.tree, Primary.tokens, List.length_cons, List.length_append, List.length_nil]
    omega

end

end Grammar

theorem length_filter_of_split {α : Type} {p : α → Bool} {a : α} {as front back : List α}
    (split : front ++ back = a :: as) (nonempty : front ≠ []) (h : p a) :
    (back.filter p).length + 1 ≤ ((a :: as).filter p).length := by
  cases front with
  | nil => exact absurd rfl nonempty
  | cons first front =>
    obtain rfl : first = a := (List.cons.inj split).1
    have all : (first :: front ++ back).filter p = first :: (front.filter p ++ back.filter p) := by
      rw [List.cons_append, List.filter_cons_of_pos h, List.filter_append]
    rw [← split, all, List.length_cons, List.length_append]
    omega

/-- A token takes one character at least, and none that is white space. -/
theorem Token.length_line_le (position : Nat) (cs : List Char) :
    ∀ tokens, scanFrom position cs = .ok tokens →
      (line tokens).length ≤ (cs.filter (!Text.isBlank ·)).length := by
  fun_induction scanFrom position cs with
  | case1 position =>
    intro tokens h
    cases h
    exact Nat.le_refl 0
  | case2 position d rest blank ih =>
    intro tokens h
    rw [List.filter_cons_of_neg (by simp [blank])]
    exact ih tokens h
  | case3 position d rest blank t symbol ih =>
    intro tokens h
    obtain ⟨after, scanned, rfl⟩ := map_eq_ok h
    rw [line_cons_of_not_stop (not_stop_of_ofSymbol? symbol),
      List.filter_cons_of_pos (by simp [blank])]
    exact Nat.succ_le_succ (ih after scanned)
  | case4 position d rest blank symbol numeral lexeme ih =>
    intro tokens h
    obtain ⟨after, scanned, rfl⟩ := map_eq_ok h
    rw [line_cons_of_not_stop rfl]
    exact Nat.le_trans (Nat.succ_le_succ (ih after scanned))
      (length_filter_of_split (Number.Numeral.split_append _)
        (Number.Numeral.split_fst_ne_nil numeral) (by simp [blank]))
  | case5 position d rest blank symbol numeral letter letters w word ih =>
    intro tokens h
    obtain ⟨after, scanned, rfl⟩ := map_eq_ok h
    rw [line_cons_of_not_stop rfl]
    exact Nat.le_trans (Nat.succ_le_succ (ih after scanned))
      (length_filter_of_split List.takeWhile_append_dropWhile (by simp [letter]) (by simp [blank]))
  | case6 | case7 =>
    intro tokens h
    cases h

/-- An expression is read after it. -/
def Token.leads : Token → Bool
  | .operator _ | .opening => true
  | _ => false

namespace Expr

open Grammar

/-- Each call that is entered is left again, and none is left that is not open. -/
structure Nested (moves : List Move) : Prop where
  opened : ∀ n, (moves.take n).count .leave ≤ (moves.take n).count .enter
  closed : moves.count .leave = moves.count .enter

namespace Nested

variable {moves moves' : List Move}

theorem nil : Nested [] := ⟨fun n => by simp, rfl⟩

theorem append (h : Nested moves) (h' : Nested moves') : Nested (moves ++ moves') where
  opened := by
    intro n
    rw [List.take_append, List.count_append, List.count_append]
    exact Nat.add_le_add (h.opened n) (h'.opened _)
  closed := by rw [List.count_append, List.count_append, h.closed, h'.closed]

theorem pass (t : Token) (h : Nested moves) : Nested (.pass t :: moves) where
  opened := by
    rintro (_ | n)
    · exact Nat.le_refl 0
    · simpa using h.opened n
  closed := by simpa using h.closed

theorem call (h : Nested moves) : Nested (.enter :: (moves ++ [.leave])) where
  opened := by
    rintro (_ | n)
    · exact Nat.le_refl 0
    · have other : Move.enter ≠ .leave := nofun
      have last : ([Move.leave].take (n - moves.length)).count .leave ≤ 1 :=
        Nat.le_trans List.count_le_length (List.length_take_le' _ _)
      have inside := h.opened n
      rw [List.take_succ_cons, List.count_cons_of_ne other, List.count_cons_self, List.take_append,
        List.count_append, List.count_append]
      omega
  closed := by simp [h.closed]

end Nested

/-- What the moves on `tokens` come to: the tokens in front of the rest are passed, none of them a
stop mark, and besides the first `calls` there is one call for each of them that leads an
expression. After an error the last of these calls may be missing. -/
structure Follows {p : List Token → Prop} (calls : Nat) (tokens : List Token)
    (x : Trace (Expr × { rest : List Token // p rest })) : Prop where
  split : ∃ rest, passed x.moves ++ rest = tokens ∧ ∀ read, x.answer = .ok read → read.2.val = rest
  noStop : ∀ t ∈ passed x.moves, t.isStop = false
  nested : Nested x.moves
  calls_le : x.moves.count .enter ≤ (passed x.moves).countP leads + calls
  calls_eq : ∀ read, x.answer = .ok read →
    x.moves.count .enter = (passed x.moves).countP leads + calls

namespace Follows

variable {p q : List Token → Prop} {calls : Nat} {tokens : List Token}

theorem done (e : Expr) (h : p tokens) : Follows 0 tokens (.done (e, ⟨tokens, h⟩)) where
  split := by
    refine ⟨tokens, rfl, ?_⟩
    rintro read ⟨⟩
    rfl
  noStop := by simp [Trace.done, passed]
  nested := .nil
  calls_le := Nat.le_refl 0
  calls_eq := fun _ _ => rfl

theorem failed (e : SyntaxError) : Follows (p := p) calls tokens (.failed e) where
  split := ⟨tokens, rfl, by rintro read ⟨⟩⟩
  noStop := by simp [Trace.failed, passed]
  nested := .nil
  calls_le := Nat.zero_le _
  calls_eq := by rintro read ⟨⟩

variable {x : Trace (Expr × { rest : List Token // p rest })}

theorem count_passing (t : Token) : (x.passing t).moves.count .enter = x.moves.count .enter :=
  List.count_cons_of_ne (Move.noConfusion : Move.pass t ≠ .enter)

theorem countP_passing (t : Token) : (passed (x.passing t).moves).countP leads =
    (passed x.moves).countP leads + if t.leads then 1 else 0 :=
  List.countP_cons

theorem passing {t : Token} (stop : t.isStop = false)
    (h : Follows (calls + if t.leads then 1 else 0) tokens x) :
    Follows calls (t :: tokens) (x.passing t) where
  split := by
    obtain ⟨rest, eq, read⟩ := h.split
    exact ⟨rest, congrArg (t :: ·) eq, read⟩
  noStop := by
    intro t' mem
    rcases List.mem_cons.1 mem with rfl | mem
    · exact stop
    · exact h.noStop t' mem
  nested := h.nested.pass t
  calls_le := by
    rw [count_passing, countP_passing, Nat.add_assoc, Nat.add_comm _ calls]
    exact h.calls_le
  calls_eq := by
    intro read ok
    rw [count_passing, countP_passing, Nat.add_assoc, Nat.add_comm _ calls]
    exact h.calls_eq read ok

theorem inCall (h : Follows calls tokens x) : Follows (calls + 1) tokens x.inCall := by
  have same : passed x.inCall.moves = passed x.moves := by simp [Trace.inCall, passed]
  have count : x.inCall.moves.count .enter = x.moves.count .enter + 1 := by simp [Trace.inCall]
  refine ⟨same ▸ h.split, same ▸ h.noStop, h.nested.call, ?_, ?_⟩
  · rw [same, count, ← Nat.add_assoc]
    exact Nat.succ_le_succ h.calls_le
  · intro read ok
    rw [same, count, ← Nat.add_assoc, h.calls_eq read ok]

theorem map {f : Expr × { rest : List Token // p rest } → Expr × { rest : List Token // q rest }}
    (h : Follows calls tokens x) (same : ∀ read, (f read).2.val = read.2.val) :
    Follows calls tokens (x.map f) where
  split := by
    obtain ⟨rest, eq, read⟩ := h.split
    refine ⟨rest, eq, ?_⟩
    intro result ok
    obtain ⟨before, inside, rfl⟩ := map_eq_ok ok
    rw [same, read before inside]
  noStop := h.noStop
  nested := h.nested
  calls_le := h.calls_le
  calls_eq := by
    intro result ok
    obtain ⟨before, inside, -⟩ := map_eq_ok ok
    exact h.calls_eq before inside

theorem andThen {f : Expr × { rest : List Token // p rest } →
      Trace (Expr × { rest : List Token // q rest })}
    (h : Follows calls tokens x) (next : ∀ read, Follows 0 read.2.val (f read)) :
    Follows calls tokens (x.andThen f) := by
  obtain ⟨rest, eq, read⟩ := h.split
  rw [Trace.andThen]
  cases answer : x.answer with
  | error e =>
    -- Nothing was read, so there is nothing to say of it.
    refine ⟨⟨rest, eq, ?_⟩, h.noStop, h.nested, h.calls_le, ?_⟩ <;> rintro read ⟨⟩
  | ok result =>
    have after := next result
    obtain ⟨rest', eq', read'⟩ := after.split
    have first := h.calls_eq result answer
    constructor
    · refine ⟨rest', ?_, read'⟩
      rw [passed_append, List.append_assoc, eq', read result answer, eq]
    · intro t mem
      rw [passed_append] at mem
      exact (List.mem_append.1 mem).elim (h.noStop t) (after.noStop t)
    · exact h.nested.append after.nested
    · have le := after.calls_le
      rw [passed_append, List.count_append, List.countP_append]
      omega
    · intro read ok
      have same := after.calls_eq read ok
      rw [passed_append, List.count_append, List.countP_append]
      omega

end Follows

theorem follows_traceClose (unclosed : Token → SyntaxError) (inner : Expr) (tokens : List Token) :
    Follows 0 tokens (traceClose unclosed inner tokens) := by
  cases tokens with
  | nil => exact .failed _
  | cons t rest =>
    cases t with
    | closing =>
      change Follows 0 _ (.passing .closing (.done (inner, ⟨rest, Nat.lt_succ_self _⟩)))
      exact .passing rfl (.done inner _)
    | _ => exact .failed _

mutual

theorem follows_traceExpression (minimum : Nat) (tokens : List Token) :
    Follows 1 tokens (traceExpression minimum tokens) := by
  rw [traceExpression]
  refine .inCall (.andThen (follows_traceOperand tokens) ?_)
  rintro ⟨left, rest, shorter⟩
  exact .map (follows_traceOperators minimum left rest) fun _ => rfl
termination_by 3 * tokens.length + 2

theorem follows_traceOperators (minimum : Nat) (left : Expr) (tokens : List Token) :
    Follows 0 tokens (traceOperators minimum left tokens) := by
  unfold traceOperators
  split
  · rename_i op rest
    split
    · exact .done left _
    · -- The operator that is passed pays for the call that reads its right operand.
      refine .passing rfl (.andThen (follows_traceExpression (rightLevel op) rest) ?_)
      rintro ⟨right, rest', shorter⟩
      exact .map (follows_traceOperators minimum (.binary op left right) rest') fun _ => rfl
  · exact .done left _
termination_by 3 * tokens.length
decreasing_by all_goals (subst_vars; simp only [List.length_cons]; omega)

theorem follows_traceOperand (tokens : List Token) : Follows 0 tokens (traceOperand tokens) := by
  unfold traceOperand
  split
  · rename_i rest
    exact .passing rfl (.map (follows_traceExpression Operator.power.precedence rest) fun _ => rfl)
  · exact follows_tracePrimary _
termination_by 3 * tokens.length + 1

theorem follows_tracePrimary (tokens : List Token) : Follows 0 tokens (tracePrimary tokens) := by
  unfold tracePrimary
  split
  · exact .passing rfl (.done _ _)
  · exact .passing rfl (.done _ _)
  · exact .passing rfl (.passing rfl (.failed _))
  · rename_i f rest argument
    refine .passing rfl (.passing rfl (.andThen (follows_traceExpression 0 rest) ?_))
    rintro ⟨inner, rest', shorter⟩
    exact .map (follows_traceClose _ _ rest') fun _ => rfl
  · exact .passing rfl (.failed _)
  · exact .passing rfl (.failed _)
  · rename_i rest argument
    refine .passing rfl (.andThen (follows_traceExpression 0 rest) ?_)
    rintro ⟨inner, rest', shorter⟩
    exact .map (follows_traceClose _ _ rest') fun _ => rfl
  · exact .failed _
termination_by 3 * tokens.length

end

/-- The whole reader passes the tokens in front of a rest. Where an expression is read, the rest
starts with a stop mark, and an expression was read after each token that leads one. -/
theorem exists_rest_of_traceTokens (tokens : List Token) :
    let moves := (traceTokens tokens).moves
    ∃ rest, passed moves ++ rest = tokens ∧ (∀ t ∈ passed moves, t.isStop = false) ∧
      Nested moves ∧ moves.count .enter ≤ (passed moves).countP leads + 1 ∧
        ∀ e, (traceTokens tokens).answer = .ok e →
          (found rest).isStop ∧ moves.count .enter = (passed moves).countP leads + 1 := by
  obtain ⟨⟨rest, eq, read⟩, noStop, nested, calls_le, calls_eq⟩ := follows_traceExpression 0 tokens
  rw [traceTokens]
  split
  · have noTokens : ∀ t ∈ ([] : List Token), t.isStop = false := List.forall_mem_nil _
    exact ⟨tokens, rfl, noTokens, .nil, Nat.zero_le _, by rintro e ⟨⟩⟩
  · rw [Trace.andThen]
    cases answer : (traceExpression 0 tokens).answer with
    | error e => exact ⟨rest, eq, noStop, nested, calls_le, by rintro e ⟨⟩⟩
    | ok result =>
      obtain rfl := read result answer
      dsimp only
      split
      · rename_i ends
        rw [Trace.done, List.append_nil]
        exact ⟨_, eq, noStop, nested, calls_le, fun _ _ => ⟨ends, calls_eq result answer⟩⟩
      · rw [Trace.failed, List.append_nil]
        exact ⟨_, eq, noStop, nested, calls_le, by rintro e ⟨⟩⟩

theorem prefix_moves_andThen {α β : Type} (x : Trace α) (f : α → Trace β) :
    x.moves <+: (x.andThen f).moves := by
  rw [Trace.andThen]
  cases x.answer with
  | error e => exact List.prefix_rfl
  | ok a => exact List.prefix_append _ _

theorem enter_prefix_traceExpression {minimum : Nat} {tokens : List Token} {before : List Move}
    (h : before <+: (traceOperand tokens).moves) :
    .enter :: before <+: (traceExpression minimum tokens).moves := by
  rw [traceExpression, Trace.inCall]
  exact List.cons_prefix_cons.2
    ⟨rfl, (h.trans (prefix_moves_andThen _ _)).trans (List.prefix_append _ _)⟩

/-- After each of the minuses in front of an operand one more call is open. -/
theorem exists_open_minuses (n minimum : Nat) (rest : List Token) :
    let tokens := List.replicate n (.operator .subtract) ++ rest
    ∃ before, before <+: (traceExpression minimum tokens).moves ∧
      before.count .enter = n + 1 ∧ before.count .leave = 0 := by
  induction n generalizing minimum with
  | zero => exact ⟨[.enter], enter_prefix_traceExpression List.nil_prefix, rfl, rfl⟩
  | succ n ih =>
    obtain ⟨before, inside, entered, left⟩ := ih Operator.power.precedence
    refine ⟨.enter :: .pass (.operator .subtract) :: before, ?_, ?_, ?_⟩
    · apply enter_prefix_traceExpression
      rw [List.replicate_succ, List.cons_append, traceOperand]
      exact List.cons_prefix_cons.2 ⟨rfl, inside⟩
    · simp [entered]
    · simp [left]

/-- The reader has all of its calls open at once where the tokens are minuses. -/
theorem exists_openCalls_minuses {n : Nat} (nonempty : n ≠ 0) (rest : List Token) :
    let tokens := List.replicate n (.operator .subtract) ++ rest
    ∃ before, before <+: (traceTokens tokens).moves ∧ openCalls before = n + 1 := by
  obtain ⟨n, rfl⟩ := Nat.exists_eq_succ_of_ne_zero nonempty
  obtain ⟨before, inside, entered, left⟩ := exists_open_minuses (n + 1) 0 rest
  refine ⟨before, ?_, by rw [openCalls, entered, left, Nat.sub_zero]⟩
  rw [traceTokens, if_neg (by simp [List.replicate_succ, found, isStop])]
  exact inside.trans (prefix_moves_andThen _ _)

theorem scan_minuses (n : Nat) :
    Token.scan (String.ofList (List.replicate n '-')) =
      .ok (List.replicate n (.operator .subtract) ++ [.stop]) := by
  have scans : Scans (List.replicate n '-') (List.replicate n (.operator .subtract)) := by
    induction n with
    | zero => exact .nil
    | succ n ih => exact .symbol rfl ih
  rw [Token.scan, String.toList_ofList]
  exact scans 0

theorem length_moves (moves : List Move) :
    moves.length = moves.count .enter + moves.count .leave + (passed moves).length := by
  induction moves with
  | nil => rfl
  | cons m moves ih => cases m <;> simp [passed] at ih ⊢ <;> omega

theorem height_le_length_line {tokens : List Token} {e : Expr} (h : ofTokens tokens = .ok e) :
    e.height ≤ (line tokens).length := by
  obtain ⟨s, eq, rfl⟩ := ofTokens_eq_ok_iff.1 h
  exact eq ▸ s.height_tree_le

theorem openCalls_le {moves before : List Move} (h : before <+: moves) :
    openCalls before ≤ moves.count .enter :=
  Nat.le_trans (Nat.sub_le _ _) (h.sublist.count_le _)

/-- The reader on tokens of which `n` stand before the first stop mark: it passes these tokens in
their order, each at most once and no others, has `n + 1` calls of its function for expressions open
at most, and has finished after `3 * n + 2` moves. Where an expression is read, all of the tokens
are passed, there is one call for each of them that leads an expression besides the first, and the
tree is no higher than `n`. A text has no more tokens than characters that are not white space, so
that the limit of the display is one for the open calls and the heights as well. -/
theorem traceTokens_bounds (tokens : List Token) :
    let n := (line tokens).length
    let moves := (traceTokens tokens).moves
    (traceTokens tokens).answer = ofTokens tokens ∧
      passed moves <+: line tokens ∧ moves.length ≤ 3 * n + 2 ∧
        (∀ before, before <+: moves →
          before.count .leave ≤ before.count .enter ∧ openCalls before ≤ n + 1) ∧
        (∀ e, ofTokens tokens = .ok e →
          passed moves = line tokens ∧ moves.count .enter = (line tokens).countP leads + 1 ∧
            e.height ≤ n) ∧
        ∀ s, scan s = .ok tokens →
          tokens = line tokens ++ [.stop] ∧ n ≤ (s.toList.filter (!Text.isBlank ·)).length ∧
            (s.length ≤ Session.displayLimit →
              (∀ before, before <+: moves → openCalls before ≤ Session.displayLimit + 1) ∧
                ∀ e, ofTokens tokens = .ok e → e.height ≤ Session.displayLimit) := by
  intro n moves
  have answer := answer_traceTokens tokens
  obtain ⟨rest, eq, noStop, nested, calls_le, whole⟩ := exists_rest_of_traceTokens tokens
  have onLine : passed moves <+: line tokens := by
    rw [← eq, Automaton.line_append noStop]
    exact List.prefix_append _ _
  have enter_le : moves.count .enter ≤ n + 1 :=
    calc moves.count .enter ≤ (passed moves).countP leads + 1 := calls_le
      _ ≤ (passed moves).length + 1 := Nat.succ_le_succ List.countP_le_length
      _ ≤ n + 1 := Nat.succ_le_succ onLine.length_le
  have open_le : ∀ before, before <+: moves → openCalls before ≤ n + 1 := fun before h =>
    Nat.le_trans (openCalls_le h) enter_le
  refine ⟨answer, onLine, ?_, ?_, ?_, ?_⟩
  · have all := length_moves moves
    have closed : moves.count .leave = moves.count .enter := nested.closed
    have passed_le : (passed moves).length ≤ n := onLine.length_le
    omega
  · intro before h
    refine ⟨?_, open_le before h⟩
    rw [List.prefix_iff_eq_take.1 h]
    exact nested.opened _
  · intro e ok
    obtain ⟨ends, calls_eq⟩ := whole e (answer.trans ok)
    have all : line tokens = passed moves := eq ▸ line_append_rest noStop ends
    exact ⟨all.symm, all ▸ calls_eq, height_le_length_line ok⟩
  · intro s scanned
    have shown := length_line_le 0 s.toList tokens scanned
    refine ⟨eq_line_of_scanFrom scanned, shown, fun fits => ?_⟩
    have n_le : n ≤ Session.displayLimit := by
      rw [← String.length_toList] at fits
      exact Nat.le_trans shown (Nat.le_trans (List.length_filter_le _ _) fits)
    exact ⟨fun before h => Nat.le_trans (open_le before h) (Nat.succ_le_succ n_le),
      fun e ok => Nat.le_trans (height_le_length_line ok) n_le⟩

/-- A display full of minuses has all of the calls that are possible open at once. -/
theorem traceTokens_bounds_minuses :
    let tokens := List.replicate 256 (.operator .subtract) ++ [.stop]
    (∀ before, before <+: (traceTokens tokens).moves → openCalls before ≤ 257) ∧
      ∃ before, before <+: (traceTokens tokens).moves ∧ openCalls before = 257 := by
  obtain ⟨-, -, -, -, -, shown⟩ :=
    traceTokens_bounds (List.replicate 256 (.operator .subtract) ++ [.stop])
  obtain ⟨-, -, fits⟩ := shown _ (scan_minuses 256)
  have length : (String.ofList (List.replicate 256 '-')).length ≤ Session.displayLimit := by
    rw [← String.length_toList, String.toList_ofList, List.length_replicate]
    exact Nat.le_refl 256
  exact ⟨(fits length).1, exists_openCalls_minuses (by decide) [.stop]⟩

end Expr

end Calculator

import Calculator.Snapshot
import Mathlib.Data.Nat.Notation
import Mathlib.Tactic.Common

/-! Quoted texts, read back. Every character is written so that the reader gives it back and nothing
of what follows is taken for a part of it, so a quoted text is read as the text it was made of. -/
namespace Calculator.Stored

open Text

variable {c : Char} {cs rest : List Char}

theorem hexValue?_digitChar : ∀ n < 16, hexValue? (Nat.digitChar n) = some n := by decide

theorem hexNumber_concat (digits : List Char) {c : Char} {n : ℕ} (value : hexValue? c = some n) :
    hexNumber (digits ++ [c]) = 16 * hexNumber digits + n := by
  simp [hexNumber, value]

/-- The digits of a number are hexadecimal and have its value. -/
theorem toDigits_hex (n : ℕ) :
    (∀ c ∈ Nat.toDigits 16 n, isHex c) ∧ hexNumber (Nat.toDigits 16 n) = n := by
  induction n using Nat.strongRecOn with
  | ind n ih =>
    have last : hexValue? (Nat.digitChar (n % 16)) = some (n % 16) :=
      hexValue?_digitChar _ (Nat.mod_lt n (by decide))
    have isHexLast : isHex (Nat.digitChar (n % 16)) := by rw [isHex, last]; rfl
    by_cases small : n < 16
    · rw [Nat.toDigits_of_lt_base small, ← Nat.mod_eq_of_lt small]
      refine ⟨List.forall_mem_singleton.2 isHexLast, ?_⟩
      rw [← List.nil_append [_], hexNumber_concat [] last]
      exact Nat.zero_add _
    · obtain ⟨all, value⟩ := ih (n / 16) (by omega)
      have digits : Nat.toDigits 16 n =
          Nat.toDigits 16 (n / 16) ++ [Nat.digitChar (n % 16)] := by
        conv_lhs => rw [← Nat.div_add_mod n 16]
        rw [← Nat.toDigits_append_toDigits (by decide) (by omega) (Nat.mod_lt n (by decide)),
          Nat.toDigits_of_lt_base (Nat.mod_lt n (by decide))]
      rw [digits]
      refine ⟨List.forall_mem_append.2 ⟨all, List.forall_mem_singleton.2 isHexLast⟩, ?_⟩
      rw [hexNumber_concat _ last, value, Nat.div_add_mod]

theorem scalar?_toNat (c : Char) : scalar? c.toNat = some c := by
  have valid : c.toNat.isValidChar := c.valid
  have same := Char.ofNat_toNat c
  rw [Char.ofNat, dif_pos valid] at same
  rw [scalar?, dif_pos valid, same]

/-- A code point between braces is read as its character. -/
theorem codePoint?_toDigits (c : Char) (rest : List Char) :
    codePoint? ('\x7b' :: (Nat.toDigits 16 c.toNat ++ '\x7d' :: rest)) = some (c, rest) := by
  obtain ⟨all, value⟩ := toDigits_hex c.toNat
  have close : isHex '\x7d' = false := by decide
  have taken : (Nat.toDigits 16 c.toNat ++ '\x7d' :: rest).takeWhile isHex =
      Nat.toDigits 16 c.toNat := by
    rw [List.takeWhile_append_of_pos all, List.takeWhile_cons_of_neg (by simp [close]),
      List.append_nil]
  have dropped : (Nat.toDigits 16 c.toNat ++ '\x7d' :: rest).dropWhile isHex = '\x7d' :: rest := by
    rw [List.dropWhile_append_of_pos all, List.dropWhile_cons_of_neg (by simp [close])]
  have short : (Nat.toDigits 16 c.toNat).length ≤ 6 := by
    refine (Nat.length_toDigits_le_iff (by decide) (by decide)).2 ?_
    have := c.valid
    simp only [UInt32.isValidChar, Nat.isValidChar] at this
    change c.val.toNat < 16 ^ 6
    omega
  simp only [codePoint?, taken, dropped, value, scalar?_toNat, Option.map_some]
  simp [Nat.toDigits_ne_nil, Nat.not_lt.2 short]

theorem quoted?_backslash {c : Char} {after : List Char} (h : escape? rest = some (c, after)) :
    quoted? ('\\' :: rest) = (quoted? after).map fun (text, after) => (c :: text, after) := by
  rw [quoted?]
  split
  · rename_i none
    rw [h] at none
    cases none
  · rename_i some
    rw [h] at some
    cases some
    rfl

theorem quoted?_cons (quote : c ≠ '"') (backslash : c ≠ '\\') :
    quoted? (c :: rest) = (quoted? rest).map fun (text, after) => (c :: text, after) := by
  rw [quoted?.eq_def]
  split <;> simp_all

theorem escape?_of_simple {c d : Char} (x : c ≠ 'x') (u : c ≠ 'u')
    (simple : simpleEscape? c = some d) : escape? (c :: rest) = some (d, rest) := by
  unfold escape?
  split <;> simp_all

/-- The marks are read after a backslash as what they are. -/
def IsMarked (marked : List Char) : Prop := '"' ∈ marked ∧ ∀ m ∈ marked, simpleEscape? m = some m

/-- A character is read back as it was written. -/
theorem quoted?_escape {marked : List Char} (marks : IsMarked marked) (c : Char)
    (rest : List Char) : quoted? (escape marked c ++ rest) =
      (quoted? rest).map fun (text, after) => (c :: text, after) := by
  have letter {d : Char} (e : Char) (x : d ≠ 'x') (u : d ≠ 'u')
      (simple : simpleEscape? d = some e) : quoted? ('\\' :: d :: rest) =
        (quoted? rest).map fun (text, after) => (e :: text, after) :=
    quoted?_backslash (escape?_of_simple x u simple)
  unfold escape
  split_ifs with null tab line carriage mark hidden
  · subst null
    exact letter _ (by decide) (by decide) rfl
  · subst tab
    exact letter _ (by decide) (by decide) rfl
  · subst line
    exact letter _ (by decide) (by decide) rfl
  · subst carriage
    exact letter _ (by decide) (by decide) rfl
  · have simple : simpleEscape? c = some c := by
      rcases mark with rfl | mem
      · rfl
      · exact marks.2 c mem
    refine letter c ?_ ?_ simple <;> rintro rfl <;> cases simple
  · have read : escape? ('u' :: '\x7b' :: (Nat.toDigits 16 c.toNat ++ '\x7d' :: rest)) =
        some (c, rest) := codePoint?_toDigits c rest
    have whole := quoted?_backslash read
    simpa [codePoint] using whole
  · rw [not_or] at mark
    refine quoted?_cons ?_ mark.1
    rintro rfl
    exact mark.2 marks.1

theorem quoted?_flatMap_escape {marked : List Char} (marks : IsMarked marked)
    (cs rest : List Char) : quoted? (cs.flatMap (escape marked) ++ '"' :: rest) =
      some (cs, rest) := by
  induction cs with
  | nil => rw [List.flatMap_nil, List.nil_append, quoted?]
  | cons c cs ih => rw [List.flatMap_cons, List.append_assoc, quoted?_escape marks, ih]; rfl

/-- A quoted text is one lexeme, whatever it holds and whatever follows it. -/
theorem lexeme?_quote {marked : List Char} (marks : IsMarked marked) (cs rest : List Char) :
    lexeme? (quote marked cs ++ rest) = some (.text cs, rest) := by
  have read := quoted?_flatMap_escape marks cs rest
  simp only [quote, List.cons_append, List.append_assoc, List.nil_append, lexeme?, read]
  rfl

end Calculator.Stored

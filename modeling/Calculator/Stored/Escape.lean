import Calculator.Text.Ranges

/-! The escapes of stored text: a mark, a letter, a code point between braces, or the bytes of a
character in UTF-8. -/
namespace Calculator.Stored

def simpleEscape? : Char → Option Char
  | '\'' => some '\''
  | '"' => some '"'
  | '\\' => some '\\'
  | 'n' => some '\n'
  | 'r' => some '\r'
  | 't' => some '\t'
  | '0' => some '\x00'
  | _ => none

def isHex (c : Char) : Bool := (Text.hexValue? c).isSome

def hexNumber (digits : List Char) : Nat :=
  digits.foldl (fun n c => 16 * n + (Text.hexValue? c).getD 0) 0

def byte? : List Char → Option (Nat × List Char)
  | a :: b :: cs => if isHex a && isHex b then some (hexNumber [a, b], cs) else none
  | _ => none

/-- The bits that a later byte of a character adds. -/
def continuation? (byte : Nat) : Option Nat :=
  if 0x80 ≤ byte ∧ byte < 0xC0 then some (byte - 0x80) else none

/-- Reads `count` further bytes, each as `\xHH`, into the code point begun by `code`. -/
def continue? (code : Nat) : Nat → List Char → Option (Nat × List Char)
  | 0, cs => some (code, cs)
  | count + 1, '\\' :: 'x' :: cs => do
    let (byte, rest) ← byte? cs
    let bits ← continuation? byte
    continue? (64 * code + bits) count rest
  | _, _ => none

/-- A code point of at least `least`, which no shorter sequence of bytes stands for. -/
def atLeast? (least : Nat) : Nat × List Char → Option (Char × List Char)
  | (code, cs) => if code < least then none else (Text.scalar? code).map (·, cs)

/-- A character as its bytes in UTF-8, the `\x` of the first one read. -/
def bytes? (cs : List Char) : Option (Char × List Char) := do
  let (byte, rest) ← byte? cs
  if byte < 0x80 then atLeast? 0 (byte, rest)
  else if byte < 0xC0 then none
  else if byte < 0xE0 then atLeast? 0x80 (← continue? (byte - 0xC0) 1 rest)
  else if byte < 0xF0 then atLeast? 0x800 (← continue? (byte - 0xE0) 2 rest)
  else if byte < 0xF8 then atLeast? 0x10000 (← continue? (byte - 0xF0) 3 rest)
  else none

/-- A code point of one to six hexadecimal digits between braces. -/
def codePoint? : List Char → Option (Char × List Char)
  | '\x7b' :: cs =>
    let digits := cs.takeWhile isHex
    match cs.dropWhile isHex with
    | '\x7d' :: rest =>
      if digits.isEmpty || 6 < digits.length then none
      else (Text.scalar? (hexNumber digits)).map (·, rest)
    | _ => none
  | _ => none

def escape? : List Char → Option (Char × List Char)
  | 'x' :: cs => bytes? cs
  | 'u' :: cs => codePoint? cs
  | c :: cs => (simpleEscape? c).map (·, cs)
  | [] => none

theorem length_byte? {cs rest : List Char} {n : Nat} (h : byte? cs = some (n, rest)) :
    rest.length < cs.length := by
  unfold byte? at h
  split at h
  · split at h
    · simp only [Option.some.injEq, Prod.mk.injEq] at h
      obtain ⟨_, rfl⟩ := h
      simp only [List.length_cons]; omega
    · simp at h
  · simp at h

theorem length_continue? {count code n : Nat} {cs rest : List Char}
    (h : continue? code count cs = some (n, rest)) : rest.length ≤ cs.length := by
  fun_induction continue? code count cs with
  | case1 => simp_all
  | case2 code count cs ih =>
    simp only [Option.bind_eq_bind, Option.bind_eq_some_iff, Prod.exists] at h
    obtain ⟨b, r, hb, bits, _, hr⟩ := h
    have := length_byte? hb
    have := ih r bits hr
    simp only [List.length_cons]; omega
  | case3 => simp at h

theorem length_atLeast? {least n : Nat} {cs rest : List Char} {c : Char}
    (h : atLeast? least (n, cs) = some (c, rest)) : rest = cs := by
  simp only [atLeast?] at h
  split at h
  · simp at h
  · simp only [Option.map_eq_some_iff, Prod.mk.injEq] at h
    obtain ⟨_, _, _, rfl⟩ := h
    rfl

theorem length_bytes? {cs rest : List Char} {c : Char} (h : bytes? cs = some (c, rest)) :
    rest.length < cs.length := by
  simp only [bytes?, Option.bind_eq_bind, Option.bind_eq_some_iff, Prod.exists] at h
  obtain ⟨byte, r, hb, h⟩ := h
  have := length_byte? hb
  have more {least code count : Nat}
      (h : ((continue? code count r).bind fun x => atLeast? least x) = some (c, rest)) :
      rest.length ≤ r.length := by
    simp only [Option.bind_eq_some_iff, Prod.exists] at h
    obtain ⟨n, r', h₁, h₂⟩ := h
    have := length_continue? h₁
    rw [length_atLeast? h₂]; exact this
  split at h
  · rw [length_atLeast? h]; exact this
  · split at h
    · simp at h
    · split at h
      · exact Nat.lt_of_le_of_lt (more h) this
      · split at h
        · exact Nat.lt_of_le_of_lt (more h) this
        · split at h
          · exact Nat.lt_of_le_of_lt (more h) this
          · simp at h

theorem length_dropWhile_le (p : Char → Bool) (cs : List Char) :
    (cs.dropWhile p).length ≤ cs.length := (List.dropWhile_sublist p).length_le

theorem length_codePoint? {cs rest : List Char} {c : Char} (h : codePoint? cs = some (c, rest)) :
    rest.length < cs.length := by
  unfold codePoint? at h
  split at h
  · rename_i cs
    dsimp only at h
    split at h
    · rename_i r hr
      split at h
      · simp at h
      · simp only [Option.map_eq_some_iff, Prod.mk.injEq] at h
        obtain ⟨_, _, _, rfl⟩ := h
        have := length_dropWhile_le isHex cs
        rw [hr] at this
        simp only [List.length_cons] at *; omega
    · simp at h
  · simp at h

theorem length_escape? {cs rest : List Char} {c : Char} (h : escape? cs = some (c, rest)) :
    rest.length < cs.length := by
  unfold escape? at h
  split at h
  · exact Nat.lt_succ_of_lt (length_bytes? h)
  · exact Nat.lt_succ_of_lt (length_codePoint? h)
  · simp only [Option.map_eq_some_iff, Prod.mk.injEq] at h
    obtain ⟨_, _, _, rfl⟩ := h
    simp
  · simp at h

end Calculator.Stored

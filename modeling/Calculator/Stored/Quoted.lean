import Calculator.Stored.Escape

/-! Texts, characters and bytes between quotes, from after their opening quote on. -/
namespace Calculator.Stored

/-- The rest of a text whose opening quote has been read. -/
def quoted? (cs : List Char) : Option (List Char × List Char) :=
  match cs with
  | [] => none
  | '"' :: rest => some ([], rest)
  | '\\' :: rest =>
    match _escape : escape? rest with
    | none => none
    | some (c, rest') => (quoted? rest').map fun (text, after) => (c :: text, after)
  | c :: rest => (quoted? rest).map fun (text, after) => (c :: text, after)
termination_by cs.length
decreasing_by
  · exact Nat.lt_succ_of_lt (length_escape? _escape)
  · simp

/-- The rest of a text that ends with a quote and `hashes` hash marks, and has no escapes. -/
def raw? (hashes : Nat) : List Char → Option (List Char × List Char)
  | [] => none
  | c :: cs =>
    if c = '"' ∧ cs.take hashes = List.replicate hashes '#' then some ([], cs.drop hashes)
    else (raw? hashes cs).map fun (text, after) => (c :: text, after)

/-- A text without escapes whose `r` has been read. -/
def rawQuoted? (cs : List Char) : Option (List Char × List Char) :=
  let hashes := cs.takeWhile (· == '#')
  match cs.dropWhile (· == '#') with
  | '"' :: rest => raw? hashes.length rest
  | _ => none

def byteEscape? : List Char → Option (List Char)
  | 'x' :: cs => (byte? cs).map (·.2)
  | cs => (escape? cs).map (·.2)

theorem length_byteEscape? {cs rest : List Char} (h : byteEscape? cs = some rest) :
    rest.length < cs.length := by
  unfold byteEscape? at h
  split at h
  all_goals
    simp only [Option.map_eq_some_iff, Prod.exists] at h
    obtain ⟨_, _, h, rfl⟩ := h
  · exact Nat.lt_succ_of_lt (length_byte? h)
  · exact length_escape? h

def byteString? (cs : List Char) : Option (List Char) :=
  match cs with
  | [] => none
  | '"' :: rest => some rest
  | '\\' :: rest =>
    match _escape : byteEscape? rest with
    | none => none
    | some rest' => byteString? rest'
  | _ :: rest => byteString? rest
termination_by cs.length
decreasing_by
  · exact Nat.lt_succ_of_lt (length_byteEscape? _escape)
  · simp

def apostrophe? : List Char → Option (List Char)
  | '\'' :: cs => some cs
  | _ => none

/-- Goes past a character whose opening apostrophe has been read. A byte above 127 is no
character. -/
def character? : List Char → Option (List Char)
  | '\\' :: 'x' :: cs => do
    let (byte, rest) ← byte? cs
    if byte < 0x80 then apostrophe? rest else none
  | '\\' :: cs => do apostrophe? (← escape? cs).2
  | _ :: cs => apostrophe? cs
  | [] => none

/-- Goes past a byte whose opening apostrophe has been read. -/
def byteLiteral? : List Char → Option (List Char)
  | '\\' :: 'x' :: cs => do apostrophe? (← byte? cs).2
  | '\\' :: c :: cs => do
    let _ ← simpleEscape? c
    apostrophe? cs
  | c :: cs => if c.toNat < 0x80 then apostrophe? cs else none
  | [] => none

theorem length_quoted? {cs text rest : List Char} (h : quoted? cs = some (text, rest)) :
    rest.length < cs.length := by
  fun_induction quoted? cs generalizing text with
  | case1 => simp at h
  | case2 => simp_all
  | case3 => simp at h
  | case4 cs c rest' hc ih =>
    simp only [Option.map_eq_some_iff, Prod.mk.injEq, Prod.exists] at h
    obtain ⟨t, r, ht, _, rfl⟩ := h
    exact Nat.lt_succ_of_lt (Nat.lt_trans (ih ht) (length_escape? hc))
  | case5 c cs _ _ ih =>
    simp only [Option.map_eq_some_iff, Prod.mk.injEq, Prod.exists] at h
    obtain ⟨t, r, ht, _, rfl⟩ := h
    exact Nat.lt_succ_of_lt (ih ht)

theorem length_raw? {hashes : Nat} {cs text rest : List Char}
    (h : raw? hashes cs = some (text, rest)) : rest.length < cs.length := by
  induction cs generalizing text with
  | nil => simp [raw?] at h
  | cons c cs ih =>
    simp only [raw?] at h
    split at h
    · simp only [Option.some.injEq, Prod.mk.injEq] at h
      obtain ⟨_, rfl⟩ := h
      simp only [List.length_drop, List.length_cons]; omega
    · simp only [Option.map_eq_some_iff, Prod.mk.injEq] at h
      obtain ⟨⟨t, r⟩, ht, _, rfl⟩ := h
      exact Nat.lt_succ_of_lt (ih ht)

theorem length_rawQuoted? {cs text rest : List Char} (h : rawQuoted? cs = some (text, rest)) :
    rest.length < cs.length := by
  unfold rawQuoted? at h
  dsimp only at h
  split at h
  · rename_i r hr
    have := length_raw? h
    have := length_dropWhile_le (· == '#') cs
    rw [hr] at this
    simp only [List.length_cons] at this; omega
  · simp at h

theorem length_byteString? {cs rest : List Char} (h : byteString? cs = some rest) :
    rest.length < cs.length := by
  fun_induction byteString? cs with
  | case1 => simp at h
  | case2 => simp_all
  | case3 => simp at h
  | case4 cs rest' hc ih =>
    exact Nat.lt_succ_of_lt (Nat.lt_trans (ih h) (length_byteEscape? hc))
  | case5 c cs _ _ ih => exact Nat.lt_succ_of_lt (ih h)

theorem length_apostrophe? {cs rest : List Char} (h : apostrophe? cs = some rest) :
    rest.length < cs.length := by
  unfold apostrophe? at h
  split at h <;> simp_all

theorem length_character? {cs rest : List Char} (h : character? cs = some rest) :
    rest.length < cs.length := by
  unfold character? at h
  split at h
  · simp only [Option.bind_eq_bind, Option.bind_eq_some_iff, Prod.exists] at h
    obtain ⟨byte, r, hb, h⟩ := h
    split at h
    · have := length_byte? hb
      have := length_apostrophe? h
      simp only [List.length_cons]; omega
    · simp at h
  · simp only [Option.bind_eq_bind, Option.bind_eq_some_iff, Prod.exists] at h
    obtain ⟨c, r, hc, h⟩ := h
    have := length_escape? hc
    have := length_apostrophe? h
    simp only [List.length_cons]; omega
  · exact Nat.lt_succ_of_lt (length_apostrophe? h)
  · simp at h

theorem length_byteLiteral? {cs rest : List Char} (h : byteLiteral? cs = some rest) :
    rest.length < cs.length := by
  unfold byteLiteral? at h
  split at h
  · simp only [Option.bind_eq_bind, Option.bind_eq_some_iff, Prod.exists] at h
    obtain ⟨byte, r, hb, h⟩ := h
    have := length_byte? hb
    have := length_apostrophe? h
    simp only [List.length_cons]; omega
  · simp only [Option.bind_eq_bind, Option.bind_eq_some_iff] at h
    obtain ⟨_, _, h⟩ := h
    have := length_apostrophe? h
    simp only [List.length_cons]; omega
  · split at h
    · exact Nat.lt_succ_of_lt (length_apostrophe? h)
    · simp at h
  · simp at h

end Calculator.Stored

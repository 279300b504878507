import Calculator.Stored.Quoted

/-! What may stand between the lexemes of stored text: white space and comments. -/
namespace Calculator.Stored

def separatorRanges : List (Nat × Nat) :=
  [(0x9, 0xD), (0x20, 0x20), (0x85, 0x85), (0x200E, 0x200F), (0x2028, 0x2029)]

def isSeparator (c : Char) : Bool := Text.inRanges separatorRanges c

/-- Goes past the end of a comment between `/*` and `*/`, which may hold `nested` others. -/
def blockComment? (nested : Nat) : List Char → Option (List Char)
  | '/' :: '*' :: cs => blockComment? (nested + 1) cs
  | '*' :: '/' :: cs =>
    match nested with
    | 0 => some cs
    | n + 1 => blockComment? n cs
  | _ :: cs => blockComment? nested cs
  | [] => none

/-- Goes past a comment whose first slash has been read. -/
def comment? : List Char → Option (List Char)
  | '/' :: cs => some (cs.dropWhile (· != '\n'))
  | '*' :: cs => blockComment? 0 cs
  | _ => none

theorem length_blockComment? {nested : Nat} {cs rest : List Char}
    (h : blockComment? nested cs = some rest) : rest.length < cs.length := by
  fun_induction blockComment? nested cs with
  | case1 _ _ ih => exact Nat.lt_succ_of_lt (Nat.lt_succ_of_lt (ih h))
  | case2 =>
    obtain rfl := Option.some.inj h
    exact Nat.lt_succ_of_lt (Nat.lt_succ_self _)
  | case3 _ _ ih => exact Nat.lt_succ_of_lt (Nat.lt_succ_of_lt (ih h))
  | case4 _ _ _ _ _ ih => exact Nat.lt_succ_of_lt (ih h)
  | case5 => simp at h

theorem length_comment? {cs rest : List Char} (h : comment? cs = some rest) :
    rest.length < cs.length := by
  unfold comment? at h
  split at h
  · simp only [Option.some.injEq] at h
    subst h
    exact Nat.lt_succ_of_le (length_dropWhile_le _ _)
  · exact Nat.lt_succ_of_lt (length_blockComment? h)
  · simp at h

def skipBlanks? (cs : List Char) : Option (List Char) :=
  match cs with
  | [] => some []
  | c :: rest =>
    if isSeparator c then skipBlanks? rest
    else if c = '/' then
      match _comment : comment? rest with
      | none => none
      | some after => skipBlanks? after
    else some (c :: rest)
termination_by cs.length
decreasing_by
  · simp
  · exact Nat.lt_succ_of_lt (length_comment? _comment)

theorem length_skipBlanks? {cs rest : List Char} (h : skipBlanks? cs = some rest) :
    rest.length ≤ cs.length := by
  fun_induction skipBlanks? cs with
  | case1 => simp_all
  | case2 _ _ _ ih => exact Nat.le_succ_of_le (ih h)
  | case3 => simp at h
  | case4 _ _ hc _ ih =>
    exact Nat.le_succ_of_le (Nat.le_trans (ih h) (Nat.le_of_lt (length_comment? hc)))
  | case5 => simp_all

end Calculator.Stored

import Mathlib.Data.List.TakeWhile
import Calculator.Proofs.Scanning

/-! Leftmost-longest lexing. A text is cut into lexemes from the left, and each of them is the
longest that stands at its place. The scanner answers with the tokens of the lexemes, or with the
error of the first place where no lexeme starts or a word is not in the vocabulary (`scan_eq_iff`).
-/
namespace Calculator.Number.Numeral

/-- Digits with at most one point, and at least one digit. -/
inductive IsMantissa : List Char → Prop
  | whole {digits : List Char} (nonempty : digits ≠ []) (all : ∀ c ∈ digits, c.isDigit) :
      IsMantissa digits
  | point {whole fraction : List Char} (nonempty : whole ++ fraction ≠ [])
      (wholeDigits : ∀ c ∈ whole, c.isDigit) (fractionDigits : ∀ c ∈ fraction, c.isDigit) :
      IsMantissa (whole ++ '.' :: fraction)

/-- Nothing, or an exponent mark, a sign or none, and at least one digit. -/
inductive IsExponent : List Char → Prop
  | absent : IsExponent []
  | present {mark : Char} {sign digits : List Char} (isMark : isExponentMark mark)
      (isSign : sign = [] ∨ ∃ c, isSign c ∧ sign = [c]) (nonempty : digits ≠ [])
      (all : ∀ c ∈ digits, c.isDigit) : IsExponent (mark :: sign ++ digits)

def Formed (cs : List Char) : Prop :=
  ∃ mantissa exponent, IsMantissa mantissa ∧ IsExponent exponent ∧ cs = mantissa ++ exponent

theorem splitDigits_digits {digits : List Char} (all : ∀ c ∈ digits, c.isDigit)
    (rest : List Char) :
    splitDigits (digits ++ rest) = (digits ++ (splitDigits rest).1, (splitDigits rest).2) := by
  simp only [splitDigits, List.takeWhile_append_of_pos all, List.dropWhile_append_of_pos all]
  split <;> simp

theorem avoids_mark_of_isDigit {cs : List Char} (all : ∀ c ∈ cs, c.isDigit) :
    Avoids isExponentMark cs := by
  intro c mem
  cases mark : isExponentMark c with
  | false => rfl
  | true =>
    have digit := all c (List.mem_of_mem_head? mem)
    rw [isDigit_of_isExponentMark mark] at digit
    cases digit

theorem avoids_mark_splitDigits (cs : List Char) : Avoids isExponentMark (splitDigits cs).1 := by
  have digits : ∀ c ∈ cs.takeWhile Char.isDigit, c.isDigit :=
    fun _ mem => List.mem_takeWhile_imp mem
  simp only [splitDigits]
  split
  · exact Avoids.append (Avoids.cons_iff.2 rfl) (avoids_mark_of_isDigit digits)
  · exact avoids_mark_of_isDigit digits

/-- A mantissa at the front of a text is cut off with what goes on with it. -/
theorem exists_splitDigits {mantissa : List Char} (h : IsMantissa mantissa) (rest : List Char) :
    ∃ more after, rest = more ++ after ∧ Avoids isExponentMark more ∧
      splitDigits (mantissa ++ rest) = (mantissa ++ more, after) := by
  cases h with
  | whole nonempty all =>
    exact ⟨_, _, (splitDigits_append rest).symm, avoids_mark_splitDigits rest,
      splitDigits_digits all rest⟩
  | @point whole fraction nonempty wholeDigits fractionDigits =>
    have point : Avoids Char.isDigit ('.' :: (fraction ++ rest)) := Avoids.cons_iff.2 rfl
    have digits : ∀ c ∈ rest.takeWhile Char.isDigit, c.isDigit :=
      fun _ mem => List.mem_takeWhile_imp mem
    refine ⟨_, _, List.takeWhile_append_dropWhile.symm, avoids_mark_of_isDigit digits, ?_⟩
    rw [List.append_assoc, List.cons_append, splitDigits_point (point.dropWhile_run wholeDigits),
      point.takeWhile_run wholeDigits, List.takeWhile_append_of_pos fractionDigits,
      List.dropWhile_append_of_pos fractionDigits]
    simp

theorem prefix_splitExponent {exponent : List Char} (h : IsExponent exponent)
    (rest : List Char) : exponent <+: (splitExponent (exponent ++ rest)).1 := by
  cases h with
  | absent => exact List.nil_prefix
  | @present mark sign digits isMark isSign nonempty all =>
    have signs := splitSign_signed isSign nonempty all rest
    have some : (digits ++ rest.takeWhile Char.isDigit).isEmpty = false := by simp [nonempty]
    simp only [List.cons_append, List.append_assoc, splitExponent, signs,
      List.takeWhile_append_of_pos all, isMark, some, Bool.not_false, Bool.and_self, if_true]
    exact ⟨rest.takeWhile Char.isDigit, by simp⟩

/-- No numeral at the front of a text is longer than what `split` cuts off. -/
theorem prefix_split {numeral : List Char} (h : Formed numeral) (rest : List Char) :
    numeral <+: (split (numeral ++ rest)).1 := by
  obtain ⟨mantissa, exponent, isMantissa, isExponent, rfl⟩ := h
  obtain ⟨more, after, whole, avoids, cut⟩ := exists_splitDigits isMantissa (exponent ++ rest)
  rw [List.append_assoc, split, cut]
  dsimp only
  cases isExponent with
  | absent => simp [List.append_assoc]
  | @present mark sign digits isMark isSign nonempty all =>
    -- The exponent starts with a mark, so the mantissa ends where it starts.
    cases more with
    | nil =>
      rw [List.append_nil, List.prefix_append_right_inj, ← List.nil_append after, ← whole]
      exact prefix_splitExponent (.present isMark isSign nonempty all) rest
    | cons c more =>
      obtain ⟨rfl, -⟩ := List.cons.inj whole
      rw [Avoids.cons_iff.1 avoids] at isMark
      cases isMark

theorem isMantissa_splitDigits {cs : List Char} (h : starts cs) :
    IsMantissa (splitDigits cs).1 := by
  have digits : ∀ c ∈ cs.takeWhile Char.isDigit, c.isDigit :=
    fun _ mem => List.mem_takeWhile_imp mem
  have nonempty : (split cs).1 ≠ [] := split_fst_ne_nil h
  unfold splitDigits
  dsimp only
  split
  · rename_i rest eq
    refine .point ?_ digits fun _ mem => List.mem_takeWhile_imp mem
    -- A point that a numeral starts with stands before a digit.
    intro none
    obtain ⟨noWhole, noFraction⟩ := List.append_eq_nil_iff.1 none
    have all := List.takeWhile_append_dropWhile (p := Char.isDigit) (l := cs)
    rw [noWhole, eq, List.nil_append] at all
    rw [← all, starts_point] at h
    cases rest with
    | nil => cases h
    | cons d rest =>
      have digit : d.isDigit := h
      simp [digit] at noFraction
  · rename_i rest noPoint
    refine .whole ?_ digits
    intro none
    dsimp only at none
    have all := List.takeWhile_append_dropWhile (p := Char.isDigit) (l := cs)
    rw [none, List.nil_append] at all
    cases cs with
    | nil => cases h
    | cons c cs =>
      by_cases point : c = '.'
      · subst point
        exact noPoint cs all
      · rw [starts_cons point] at h
        simp [h] at none

theorem isExponent_splitExponent (cs : List Char) : IsExponent (splitExponent cs).1 := by
  unfold splitExponent
  split
  · exact .absent
  · rename_i c cs
    dsimp only
    split
    · rename_i complete
      simp only [Bool.and_eq_true, Bool.not_eq_true', List.isEmpty_eq_false_iff] at complete
      refine .present complete.1 ?_ complete.2 fun _ mem => List.mem_takeWhile_imp mem
      unfold splitSign
      split
      · rename_i d ds
        by_cases sign : isSign d
        · exact .inr ⟨d, sign, by simp [sign]⟩
        · exact .inl (by simp [sign])
      · exact .inl rfl
    · exact .absent

theorem formed_split {cs : List Char} (h : starts cs) : Formed (split cs).1 :=
  ⟨_, _, isMantissa_splitDigits h, isExponent_splitExponent _, rfl⟩

theorem starts_of_formed {numeral : List Char} (h : Formed numeral) (rest : List Char) :
    starts (numeral ++ rest) := by
  obtain ⟨mantissa, exponent, isMantissa, -, rfl⟩ := h
  cases isMantissa with
  | whole nonempty all =>
    cases mantissa with
    | nil => exact absurd rfl nonempty
    | cons c cs =>
      have digit := all c (List.mem_cons_self ..)
      simp only [List.cons_append]
      rw [starts_cons (by rintro rfl; cases digit), digit]
  | @point whole fraction nonempty wholeDigits fractionDigits =>
    cases whole with
    | nil =>
      cases fraction with
      | nil => exact absurd rfl nonempty
      | cons d ds => exact fractionDigits d (List.mem_cons_self ..)
    | cons c cs =>
      have digit := wholeDigits c (List.mem_cons_self ..)
      simp only [List.cons_append]
      rw [starts_cons (by rintro rfl; cases digit), digit]

/-- The numerals of the grammar are those that are cut off as a whole. -/
theorem isNumeral_iff_formed {cs : List Char} : IsNumeral cs ↔ Formed cs := by
  constructor
  · rintro ⟨isStart, cut⟩
    have formed := formed_split isStart
    rwa [cut] at formed
  · intro formed
    have isStart := starts_of_formed formed []
    have front := prefix_split formed []
    rw [List.append_nil] at isStart front
    obtain ⟨more, eq⟩ := front
    have whole := split_append cs
    rw [← eq, List.append_assoc, List.append_right_eq_self, List.append_eq_nil_iff] at whole
    obtain ⟨rfl, nothing⟩ := whole
    rw [List.append_nil] at eq
    exact ⟨isStart, Prod.ext eq.symm nothing⟩

end Calculator.Number.Numeral

namespace Calculator

open Number Numeral Token

/-- A piece of a text that a scanner cuts off in one go. -/
inductive Lexeme where
  | blank (c : Char) (isBlank : Text.isBlank c)
  | symbol (c : Char) (t : Token) (isSymbol : ofSymbol? c = some t)
  | number (cs : List Char) (formed : Formed cs)
  | word (letters : List Char) (nonempty : letters ≠ []) (all : ∀ c ∈ letters, c.isAlpha)

namespace Lexeme

def chars : Lexeme → List Char
  | .blank c _ => [c]
  | .symbol c _ _ => [c]
  | .number cs _ => cs
  | .word letters _ _ => letters

/-- The token of a lexeme. White space has none, and neither has a word that is not in the
vocabulary. -/
def token? : Lexeme → Option Token
  | .blank _ _ => none
  | .symbol _ t _ => some t
  | .number cs _ => some (.number (numberOf cs))
  | .word letters _ _ => (wordOf? (letters.map Char.toLower)).map .word

/-- Words are known if they are in the vocabulary, in whatever case, and all else is known. -/
def Known : Lexeme → Prop
  | .word letters _ _ => (wordOf? (letters.map Char.toLower)).isSome
  | _ => True

/-- The lexeme is the longest at the front of the text. -/
structure Leads (l : Lexeme) (cs : List Char) : Prop where
  front : l.chars <+: cs
  longest : ∀ l' : Lexeme, l'.chars <+: cs → l'.chars.length ≤ l.chars.length

def joined (ls : List Lexeme) : List Char := ls.flatMap chars

/-- Each lexeme is the longest at its place in the text that the lexemes and `rest` make. -/
def IsCut : List Lexeme → List Char → Prop
  | [], _ => True
  | l :: ls, rest => l.Leads (l.chars ++ (joined ls ++ rest)) ∧ IsCut ls rest

/-- The error of a text at this position that cannot be cut further. -/
inductive Refuses (position : Nat) : List Char → LexError → Prop
  | character {c : Char} {rest : List Char} (none : ∀ l : Lexeme, ¬l.chars <+: c :: rest) :
      Refuses position (c :: rest) (.unexpectedCharacter c position)
  | word {letters rest : List Char} {nonempty : letters ≠ []} {all : ∀ c ∈ letters, c.isAlpha}
      (leads : (Lexeme.word letters nonempty all).Leads rest)
      (unknown : ¬(Lexeme.word letters nonempty all).Known) :
      Refuses position rest (.unknownWord (letters.map Char.toLower) position)

variable {c : Char} {cs rest : List Char} {l : Lexeme} {position : Nat}

theorem joined_cons (l : Lexeme) (ls : List Lexeme) : joined (l :: ls) = l.chars ++ joined ls := rfl

theorem chars_ne_nil (l : Lexeme) : l.chars ≠ [] := by
  cases l with
  | blank | symbol => exact List.cons_ne_nil _ _
  | number cs formed =>
    rintro rfl
    exact absurd (starts_of_formed formed []) (by decide)
  | word letters nonempty all => exact nonempty

inductive Kind (cs : List Char) (lexeme : List Char) : Prop
  | blank {c : Char} {rest : List Char} (eq : cs = c :: rest) (isBlank : Text.isBlank c)
      (single : lexeme = [c])
  | symbol {c : Char} {rest : List Char} (eq : cs = c :: rest) (isSymbol : (ofSymbol? c).isSome)
      (single : lexeme = [c])
  | number (isStart : starts cs) (formed : Formed lexeme)
  | word {c : Char} {rest : List Char} (eq : cs = c :: rest) (isLetter : c.isAlpha)
      (all : ∀ c ∈ lexeme, c.isAlpha)

theorem kind_of_front (front : l.chars <+: cs) : Kind cs l.chars := by
  obtain ⟨rest, rfl⟩ := front
  cases l with
  | blank c isBlank => exact .blank rfl isBlank rfl
  | symbol c t isSymbol => exact .symbol rfl (by simp [isSymbol]) rfl
  | number cs formed => exact .number (starts_of_formed formed rest) formed
  | word letters nonempty all =>
    cases letters with
    | nil => exact absurd rfl nonempty
    | cons c letters => exact .word rfl (all c (List.mem_cons_self ..)) all

theorem classes_of_starts (h : starts (c :: rest)) :
    Text.isBlank c = false ∧ ofSymbol? c = none ∧ c.isAlpha = false := by
  rcases first_of_starts h with digit | rfl
  · have alphanum : c.isAlphanum := Text.isAlphanum_iff.2 (.inr digit)
    refine ⟨Text.isBlank_of_isAlphanum alphanum, ofSymbol?_eq_none (.inl alphanum), ?_⟩
    cases letter : c.isAlpha with
    | false => rfl
    | true => rw [Text.isDigit_of_isAlpha letter] at digit; cases digit
  · decide

theorem classes_of_isAlpha (h : c.isAlpha) :
    Text.isBlank c = false ∧ ofSymbol? c = none := by
  have alphanum : c.isAlphanum := Text.isAlphanum_iff.2 (.inl h)
  exact ⟨Text.isBlank_of_isAlphanum alphanum, ofSymbol?_eq_none (.inl alphanum)⟩

theorem chars_of_front (front : l.chars <+: c :: rest)
    (h : Text.isBlank c ∨ (ofSymbol? c).isSome) : l.chars = [c] := by
  cases kind_of_front front with
  | blank eq _ single | symbol eq _ single =>
    obtain ⟨rfl, -⟩ := List.cons.inj eq
    exact single
  | number isStart _ =>
    have classes := classes_of_starts isStart
    simp [classes] at h
  | word eq isLetter _ =>
    obtain ⟨rfl, -⟩ := List.cons.inj eq
    have classes := classes_of_isAlpha isLetter
    simp [classes] at h

theorem formed_of_front (front : l.chars <+: cs) (h : starts cs) : Formed l.chars := by
  cases kind_of_front front with
  | blank eq isBlank _ =>
    subst eq
    rw [(classes_of_starts h).1] at isBlank
    cases isBlank
  | symbol eq isSymbol _ =>
    subst eq
    rw [(classes_of_starts h).2.1] at isSymbol
    cases isSymbol
  | number _ formed => exact formed
  | word eq isLetter _ =>
    subst eq
    rw [(classes_of_starts h).2.2] at isLetter
    cases isLetter

theorem letters_of_front (front : l.chars <+: c :: rest) (h : c.isAlpha) :
    ∀ c ∈ l.chars, c.isAlpha := by
  cases kind_of_front front with
  | blank eq isBlank _ =>
    obtain ⟨rfl, -⟩ := List.cons.inj eq
    rw [(classes_of_isAlpha h).1] at isBlank
    cases isBlank
  | symbol eq isSymbol _ =>
    obtain ⟨rfl, -⟩ := List.cons.inj eq
    rw [(classes_of_isAlpha h).2] at isSymbol
    cases isSymbol
  | number isStart _ =>
    rw [(classes_of_starts isStart).2.2] at h
    cases h
  | word _ _ all => exact all

theorem leads_single (front : l.chars <+: c :: rest)
    (h : Text.isBlank c ∨ (ofSymbol? c).isSome) : l.Leads (c :: rest) :=
  ⟨front, fun l' front' => by rw [chars_of_front front' h, chars_of_front front h]⟩

theorem leads_number (h : starts cs) : (number (split cs).1 (formed_split h)).Leads cs := by
  refine ⟨⟨_, split_append cs⟩, fun l' front' => ?_⟩
  obtain ⟨rest, rfl⟩ := front'
  exact (prefix_split (formed_of_front ⟨rest, rfl⟩ h) rest).length_le

theorem leads_word (h : c.isAlpha) :
    ∃ nonempty all, (word ((c :: rest).takeWhile Char.isAlpha) nonempty all).Leads (c :: rest) := by
  refine ⟨by simp [h], fun _ mem => List.mem_takeWhile_imp mem,
    List.takeWhile_prefix _, fun l' front' => ?_⟩
  have run : l'.chars <+: (c :: rest).takeWhile Char.isAlpha := by
    have all := letters_of_front front' h
    obtain ⟨after, eq⟩ := front'
    rw [← eq, List.takeWhile_append_of_pos all]
    exact List.prefix_append _ _
  exact run.length_le

/-- Where a lexeme starts, there is a longest one. -/
theorem exists_leads (front : l.chars <+: cs) : ∃ l' : Lexeme, l'.Leads cs := by
  cases kind_of_front front with
  | blank eq isBlank _ => subst eq; exact ⟨l, leads_single front (.inl isBlank)⟩
  | symbol eq isSymbol _ => subst eq; exact ⟨l, leads_single front (.inr isSymbol)⟩
  | number isStart _ => exact ⟨_, leads_number isStart⟩
  | word eq isLetter _ =>
    subst eq
    obtain ⟨nonempty, all, leads⟩ := leads_word isLetter
    exact ⟨_, leads⟩

theorem Leads.length_eq {l' : Lexeme} (h : l.Leads cs) (h' : l'.Leads cs) :
    l.chars.length = l'.chars.length :=
  Nat.le_antisymm (h'.longest l h.front) (h.longest l' h'.front)

/-- A lexeme that is the longest in front of a text is the longest in front of a part of it. -/
theorem Leads.shorten {after : List Char} (h : l.Leads (l.chars ++ (cs ++ after))) :
    l.Leads (l.chars ++ cs) := by
  refine ⟨List.prefix_append _ _, fun l' front => h.longest l' (front.trans ?_)⟩
  rw [← List.append_assoc]
  exact List.prefix_append _ _

theorem split_of_leads {formed : Formed cs} (h : (number cs formed).Leads (cs ++ rest)) :
    split (cs ++ rest) = (cs, rest) := by
  have isStart := starts_of_formed formed rest
  have whole := split_append (cs ++ rest)
  have length := h.length_eq (leads_number isStart)
  obtain ⟨same, after⟩ := List.append_inj whole length.symm
  exact Prod.ext same after

theorem takeWhile_of_leads {nonempty : cs ≠ []} {all : ∀ c ∈ cs, c.isAlpha}
    (h : (word cs nonempty all).Leads rest) :
    rest.takeWhile Char.isAlpha = cs ∧ cs ++ rest.dropWhile Char.isAlpha = rest := by
  obtain ⟨after, rfl⟩ := h.front
  cases cs with
  | nil => exact absurd rfl nonempty
  | cons c cs =>
    obtain ⟨_, _, leads⟩ := @leads_word c (cs ++ after) (all c (List.mem_cons_self ..))
    have whole := @List.takeWhile_append_dropWhile _ Char.isAlpha (c :: cs ++ after)
    obtain ⟨same, rest⟩ := List.append_inj whole (h.length_eq leads).symm
    exact ⟨same, congrArg (c :: cs ++ ·) rest⟩

/-- The longest lexeme of a text gives the first token, if it has one. -/
theorem scanFrom_of_leads (h : l.Leads (l.chars ++ rest)) (known : l.Known) (position : Nat) :
    scanFrom position (l.chars ++ rest) =
      (scanFrom (position + l.chars.length) rest).map (l.token?.toList ++ ·) := by
  cases l with
  | blank c isBlank =>
    change scanFrom position (c :: rest) = (scanFrom (position + 1) rest).map id
    rw [scanFrom_blank isBlank]
    cases scanFrom (position + 1) rest <;> rfl
  | symbol c t isSymbol => exact scanFrom_symbol isSymbol
  | number cs formed =>
    have cut := split_of_leads h
    change scanFrom position (cs ++ rest) = _
    rw [scanFrom_number (starts_of_formed formed rest), cut]
    rfl
  | word letters nonempty all =>
    obtain ⟨taken, dropped⟩ := takeWhile_of_leads h
    obtain ⟨w, word⟩ := Option.isSome_iff_exists.1 known
    cases letters with
    | nil => exact absurd rfl nonempty
    | cons c letters =>
      change scanFrom position (c :: letters ++ rest) = _
      rw [List.cons_append, scanFrom_word (all c (List.mem_cons_self ..))]
      change scanWord position ((c :: letters ++ rest).takeWhile Char.isAlpha)
        ((c :: letters ++ rest).dropWhile Char.isAlpha) = _
      have after := List.append_cancel_left dropped
      rw [chars] at taken after
      rw [taken, after, scanWord, word, token?, word]
      rfl

/-- The tokens of the lexemes that a text starts with come first. -/
theorem scanFrom_of_isCut {ls : List Lexeme} (cut : IsCut ls rest)
    (known : ∀ l ∈ ls, l.Known) (position : Nat) :
    scanFrom position (joined ls ++ rest) =
      (scanFrom (position + (joined ls).length) rest).map (ls.filterMap token? ++ ·) := by
  induction ls generalizing position with
  | nil =>
    change scanFrom position rest = (scanFrom position rest).map id
    cases scanFrom position rest <;> rfl
  | cons l ls ih =>
    obtain ⟨leads, cut⟩ := cut
    simp only [List.forall_mem_cons] at known
    rw [joined_cons, List.append_assoc, scanFrom_of_leads leads known.1, ih cut known.2,
      List.length_append, Nat.add_assoc]
    cases scanFrom (position + (l.chars.length + (joined ls).length)) rest with
    | error e => rfl
    | ok ts => cases token : l.token? <;> simp [Except.map, token]

theorem scanFrom_of_refuses {e : LexError} (h : Refuses position rest e) :
    scanFrom position rest = .error e := by
  cases h with
  | @character c rest none =>
    refine scanFrom_unexpected ?_ ?_ ?_ ?_
    · exact Bool.eq_false_iff.2 fun isBlank => none (.blank c isBlank) ⟨rest, rfl⟩
    · exact Option.eq_none_iff_forall_ne_some.2 fun t isSymbol =>
        none (.symbol c t isSymbol) ⟨rest, rfl⟩
    · exact Bool.eq_false_iff.2 fun isStart => none _ (leads_number isStart).front
    · refine Bool.eq_false_iff.2 fun isLetter => ?_
      obtain ⟨_, _, leads⟩ := @leads_word c rest isLetter
      exact none _ leads.front
  | @word letters _ nonempty all leads unknown =>
    obtain ⟨taken, dropped⟩ := takeWhile_of_leads leads
    cases letters with
    | nil => exact absurd rfl nonempty
    | cons c letters =>
      obtain ⟨after, rfl⟩ := leads.front
      have noWord : wordOf? ((c :: letters).map Char.toLower) = none := by
        simpa [Known] using unknown
      change scanFrom position (c :: (letters ++ after)) = _
      rw [scanFrom_word (all c (List.mem_cons_self ..)), scanWord]
      change (c :: (letters ++ after)).takeWhile Char.isAlpha = c :: letters at taken
      rw [taken, noWord]

theorem IsCut.prefix {ls : List Lexeme} (cut : IsCut ls rest) : IsCut ls [] := by
  induction ls with
  | nil => trivial
  | cons l ls ih => exact ⟨by rw [List.append_nil]; exact cut.1.shorten, ih cut.2⟩

/-- Every text is cut up to its end or to a place where it cannot be cut further. -/
theorem exists_isCut (position : Nat) (cs : List Char) :
    ∃ ls rest, IsCut ls rest ∧ joined ls ++ rest = cs ∧ (∀ l ∈ ls, l.Known) ∧
      (rest = [] ∨ ∃ e, Refuses (position + (joined ls).length) rest e) := by
  induction length : cs.length using Nat.strongRecOn generalizing position cs with
  | _ n ih =>
    cases cs with
    | nil => exact ⟨[], [], trivial, rfl, nofun, .inl rfl⟩
    | cons c cs =>
      by_cases some : ∃ l : Lexeme, l.chars <+: c :: cs
      · obtain ⟨l, front⟩ := some
        obtain ⟨l, leads⟩ := exists_leads front
        by_cases known : l.Known
        · obtain ⟨after, eq⟩ := leads.front
          have shorter : after.length < n := by
            have pos := List.length_pos_iff.2 l.chars_ne_nil
            rw [← length, ← eq, List.length_append]
            omega
          obtain ⟨ls, rest, cut, whole, knowns, stop⟩ :=
            ih _ shorter (position + l.chars.length) after rfl
          refine ⟨l :: ls, rest, ⟨?_, cut⟩, ?_, List.forall_mem_cons.2 ⟨known, knowns⟩, ?_⟩
          · rw [whole, eq]
            exact leads
          · rw [joined_cons, List.append_assoc, whole, eq]
          · rw [joined_cons, List.length_append, ← Nat.add_assoc]
            exact stop
        · cases l with
          | word letters nonempty all =>
            exact ⟨[], c :: cs, trivial, rfl, nofun, .inr ⟨_, .word leads known⟩⟩
          | _ => exact absurd trivial known
      · exact ⟨[], c :: cs, trivial, rfl, nofun,
          .inr ⟨_, .character fun l front => some ⟨l, front⟩⟩⟩

end Lexeme

namespace Token

open Lexeme

/-- A text has tokens if it is cut into known lexemes up to its end, and the error of the place
where it cannot be cut further otherwise. Up to that place it has the tokens of the lexemes before
it. -/
theorem scan_eq_iff (s : String) :
    (∀ tokens, scan s = .ok tokens ↔ ∃ ls, IsCut ls [] ∧ joined ls = s.toList ∧
        (∀ l ∈ ls, l.Known) ∧ tokens = ls.filterMap token? ++ [.stop]) ∧
      (∀ e, scan s = .error e ↔ ∃ ls rest, IsCut ls rest ∧ joined ls ++ rest = s.toList ∧
        (∀ l ∈ ls, l.Known) ∧ Refuses (joined ls).length rest e) ∧
      ∀ ls rest, IsCut ls rest → joined ls ++ rest = s.toList → (∀ l ∈ ls, l.Known) →
        scan (.ofList (joined ls)) = .ok (ls.filterMap token? ++ [.stop]) := by
  have whole : ∀ {ls}, IsCut ls [] → (∀ l ∈ ls, l.Known) →
      scanFrom 0 (joined ls) = .ok (ls.filterMap token? ++ [.stop]) := by
    intro ls cut known
    have scanned := scanFrom_of_isCut cut known 0
    rw [List.append_nil, scanFrom_nil] at scanned
    exact scanned
  have refused : ∀ {ls rest e}, IsCut ls rest → (∀ l ∈ ls, l.Known) →
      Refuses (joined ls).length rest e → scanFrom 0 (joined ls ++ rest) = .error e := by
    intro ls rest e cut known refuses
    rw [← Nat.zero_add (joined ls).length] at refuses
    rw [scanFrom_of_isCut cut known, scanFrom_of_refuses refuses]
    rfl
  obtain ⟨ls, rest, cut, text, known, stop⟩ := exists_isCut 0 s.toList
  rw [Nat.zero_add] at stop
  refine ⟨fun tokens => ⟨fun scanned => ?_, ?_⟩, fun e => ⟨fun scanned => ?_, ?_⟩, ?_⟩
  · rw [scan, ← text] at scanned
    rcases stop with rfl | ⟨e, refuses⟩
    · rw [List.append_nil, whole cut known] at scanned
      exact ⟨ls, cut, by simpa using text, known, (Except.ok.inj scanned).symm⟩
    · rw [refused cut known refuses] at scanned
      cases scanned
  · rintro ⟨ls, cut, text, known, rfl⟩
    rw [scan, ← text, whole cut known]
  · rw [scan, ← text] at scanned
    rcases stop with rfl | ⟨e', refuses⟩
    · rw [List.append_nil, whole cut known] at scanned
      cases scanned
    · rw [refused cut known refuses] at scanned
      cases scanned
      exact ⟨ls, rest, cut, text, known, refuses⟩
  · rintro ⟨ls, rest, cut, text, known, refuses⟩
    rw [scan, ← text, refused cut known refuses]
  · intro ls rest cut text known
    rw [scan, String.toList_ofList, whole cut.prefix known]

end Token

end Calculator

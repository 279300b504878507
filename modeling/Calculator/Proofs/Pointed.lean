import Calculator.Proofs.Shortest
import Calculator.Stored.Numeral

/-! Numbers in stored text. A finite number is written with a point and without an exponent, and it
is read back bit for bit, the sign of zero included. -/
namespace Calculator.Number

namespace Decimal

/-- The digits after the point, of which there is at least one. -/
def pointDigits (d : Decimal) : List Char :=
  if dropZeros d.fraction = [] then ['0'] else dropZeros d.fraction

/-- A decimal fraction with its point, even if it is an integer. -/
def pointText (d : Decimal) : List Char := d.whole ++ withPoint d.pointDigits

theorem isDigit_of_mem_whole {d : Decimal} {c : Char} (h : c ∈ d.whole) : c.isDigit :=
  isDigit_of_mem_toDigits h

theorem isDigit_of_mem_pointDigits {d : Decimal} {c : Char} (h : c ∈ d.pointDigits) :
    c.isDigit := by
  rw [pointDigits] at h
  split at h
  · rw [List.mem_singleton.1 h]
    rfl
  · exact isDigit_of_mem_lowDigits (mem_of_mem_dropZeros h)

theorem isNumeral_pointText (d : Decimal) : Numeral.IsNumeral d.pointText := by
  have parts := @Numeral.isNumeral_of_parts d.whole d.pointDigits [] d.whole_ne_nil
    (fun c => isDigit_of_mem_whole) (fun c => isDigit_of_mem_pointDigits) rfl
  rw [List.append_nil] at parts
  exact parts

/-- The same fraction with one more place. -/
def tenfold (d : Decimal) : Decimal := ⟨d.units * 10, d.places + 1⟩

theorem rational_tenfold (d : Decimal) : d.tenfold.rational = d.rational := by
  simp only [rational, tenfold, pow_succ]
  push_cast
  field_simp

theorem whole_tenfold (d : Decimal) : d.tenfold.whole = d.whole := by
  simp only [whole, tenfold, Nat.pow_eq, pow_succ]
  rw [Nat.mul_div_mul_right _ _ (by decide)]

theorem fraction_tenfold (d : Decimal) : d.tenfold.fraction = d.fraction ++ ['0'] := by
  simp [fraction, tenfold, lowDigits]

/-- The zero after the point of an integer does not change its value. -/
theorem exists_read?_pointText (d : Decimal) :
    ∃ n, Numeral.read? d.pointText = some n ∧ n.rational = d.rational := by
  obtain ⟨zeros, written⟩ := exists_dropZeros d.fraction
  rw [pointText, pointDigits]
  split
  · rename_i integer
    have tenfold : d.tenfold.fraction = ['0'] ++ List.replicate zeros '0' := by
      rw [fraction_tenfold, written, integer, List.nil_append, List.singleton_append,
        ← List.replicate_succ, List.replicate_succ']
    have read := d.tenfold.exists_read?_withPoint tenfold
    rwa [whole_tenfold, rational_tenfold] at read
  · exact d.exists_read?_withPoint written

theorem contains_point_shortText (d : Decimal) :
    d.shortText.contains '.' = !(dropZeros d.fraction).isEmpty := by
  have whole : '.' ∉ d.whole := fun mem => absurd (isDigit_of_mem_whole mem) (by decide)
  rw [Bool.eq_iff_iff, List.contains_iff_mem, shortText, List.mem_append]
  cases dropZeros d.fraction <;> simp [whole, withPoint]

theorem pointText_eq (d : Decimal) : d.pointText =
    if d.shortText.contains '.' then d.shortText else d.shortText ++ ".0".toList := by
  rw [contains_point_shortText, pointText, pointDigits, shortText]
  cases dropZeros d.fraction <;> simp [withPoint]

end Decimal

variable {x : Float}

theorem plain_of_isFinite (h : x.isFinite) : plain x =
    withSign (Binary.ofFloat x).negative (Binary.ofFloat x).shortest.shortText := by
  rw [plain, write, isNaN_of_isFinite h, isInf_of_isFinite h]
  rfl

theorem pointed_of_isFinite (h : x.isFinite) : pointed x =
    withSign (Binary.ofFloat x).negative (Binary.ofFloat x).shortest.pointText := by
  rw [pointed, plain_of_isFinite h, Decimal.pointText_eq, h]
  cases (Binary.ofFloat x).negative with
  | false => simp [withSign]
  | true =>
    simp only [withSign, if_true, List.contains_cons, Bool.not_true, Bool.or_false]
    rw [show ('.' == '-') = false from rfl, Bool.false_or]
    split <;> rfl

/-- The digits of a number do not depend on its sign. -/
theorem shortest_signedFloat {n : ℕ} (finite : n < finiteCount) (negative : Bool) :
    (Binary.ofFloat (signedFloat negative (nthFloat n))).shortest =
      (Binary.ofFloat (nthFloat n)).shortest := by
  cases negative with
  | false => rfl
  | true =>
    rw [signedFloat, if_pos rfl, ofFloat_neg ((isFinite_nthFloat finite.le).2 finite)]
    rfl

/-- A number is read back as it was written. -/
theorem read?_pointed (h : x.isFinite) : read? (pointed x) = some x := by
  obtain ⟨n, finite, eq, -⟩ := exists_abs h
  obtain ⟨numeral, read, value⟩ := (Binary.ofFloat x).shortest.exists_read?_pointText
  obtain ⟨m, rounds, rounded⟩ := numeral.exists_value
  have shortest : (Binary.ofFloat x).shortest = (Binary.ofFloat (nthFloat n)).shortest := by
    rw [eq]
    exact shortest_signedFloat finite _
  rw [value, shortest] at rounds
  obtain rfl := rounds.unique strictMono_floatGrid (roundsTo_shortest finite)
  rw [min_eq_left finite.le] at rounded
  rw [pointed_of_isFinite h, read?_withSign (Decimal.isNumeral_pointText _).1, read,
    Option.map_some, rounded]
  exact congrArg some eq.symm

theorem pointed_ne_nil (h : x.isFinite) : pointed x ≠ [] := by
  intro empty
  have read := read?_pointed h
  rw [empty] at read
  cases read

end Calculator.Number

namespace Calculator.Stored

open Number

variable {x : Float} {c : Char}

/-- The characters of a number that is written with a point. -/
def IsPointed (c : Char) : Prop := c.isDigit ∨ c = '.' ∨ c = '-'

theorem isPointed_of_mem_pointed (h : x.isFinite) (mem : c ∈ pointed x) : IsPointed c := by
  have number : ∀ d : Decimal, ∀ c ∈ d.pointText, c.isDigit ∨ c = '.' := by
    intro d c mem
    rcases List.mem_append.1 mem with mem | mem
    · exact .inl (Decimal.isDigit_of_mem_whole mem)
    · cases digits : d.pointDigits with
      | nil =>
        rw [digits] at mem
        cases mem
      | cons d' ds =>
        rw [digits] at mem
        rcases List.mem_cons.1 mem with rfl | mem
        · exact .inr rfl
        · exact .inl (Decimal.isDigit_of_mem_pointDigits (digits ▸ mem))
  rw [pointed_of_isFinite h, withSign] at mem
  split at mem
  · rcases List.mem_cons.1 mem with rfl | mem
    · exact .inr (.inr rfl)
    · exact (number _ c mem).imp_right .inl
  · exact (number _ c mem).imp_right .inl

theorem not_isPointed_of_isAlpha (h : c.isAlpha) : ¬IsPointed c := by
  rintro (digit | rfl | rfl)
  · rw [Text.isDigit_of_isAlpha h] at digit
    cases digit
  · cases h
  · cases h

theorem withoutType_of_isPointed {cs : List Char} (all : ∀ c ∈ cs, IsPointed c) :
    withoutType "f64" cs = cs := by
  rw [withoutType, if_neg]
  intro suffix
  have mem : 'f' ∈ cs := (List.isSuffixOf_iff_suffix.1 suffix).subset (by decide)
  exact not_isPointed_of_isAlpha rfl (all 'f' mem)

theorem lookup_namedFloats_of_isPointed {cs : List Char} (all : ∀ c ∈ cs, IsPointed c) :
    namedFloats.lookup (String.ofList cs) = none := by
  rw [List.lookup_eq_none_iff]
  intro name mem
  have letter : ∀ name ∈ namedFloats, name.1.toList.any Char.isAlpha := by decide +kernel
  obtain ⟨c, inside, alpha⟩ := List.any_eq_true.1 (letter name mem)
  rw [bne_iff_ne]
  intro same
  rw [← same, String.toList_ofList] at inside
  exact not_isPointed_of_isAlpha alpha (all c inside)

theorem groupsDigits_of_isPointed {cs : List Char} (all : ∀ c ∈ cs, IsPointed c)
    (allowed : Bool) : groupsDigits allowed cs := by
  induction cs generalizing allowed with
  | nil => rfl
  | cons c cs ih =>
    have rest := ih fun d mem => all d (.tail _ mem)
    have first : c ≠ '_' := by
      rintro rfl
      rcases all '_' (List.mem_cons_self ..) with digit | point | minus
      · cases digit
      · cases point
      · cases minus
    unfold groupsDigits
    split
    · rfl
    · rename_i same
      exact absurd (List.cons.inj same).1 first
    · rename_i d ds _ same
      obtain ⟨rfl, rfl⟩ := List.cons.inj same
      split <;> exact rest _

/-- A number is read back from stored text, whether or not a type is looked for. -/
theorem float?_pointed (h : x.isFinite) : float? (pointed x) = some x := by
  have all := fun c => @isPointed_of_mem_pointed x c h
  have characters : (pointed x).all isFloatCharacter := by
    refine List.all_eq_true.2 fun c mem => ?_
    rcases all c mem with digit | rfl | rfl
    · simp [isFloatCharacter, digit]
    · rfl
    · rfl
  have kept : (pointed x).filter (· != '_') = pointed x := by
    refine List.filter_eq_self.2 fun c mem => ?_
    rcases all c mem with digit | rfl | rfl
    · rw [bne_iff_ne]
      rintro rfl
      cases digit
    · rfl
    · rfl
  rw [float?, withoutType_of_isPointed all, untypedFloat?, lookup_namedFloats_of_isPointed all]
  simp only [characters, groupsDigits_of_isPointed all, Bool.and_self, if_true, kept,
    read?_pointed h]

theorem isNumber_pointed (h : x.isFinite) : isNumber (pointed x) := by
  simp [isNumber, isFloat, float?_pointed h]

end Calculator.Stored

import Calculator.Proofs.Pointed
import Calculator.Proofs.Quoting

/-! Stored text, read back. Written texts, names and numerals are the lexemes that they look like,
whatever a text holds, and a record of them is read as its fields. -/
namespace Calculator.Stored

open Text Number

variable {c : Char} {cs rest after : List Char} {l : Lexeme}

/-- Neither white space nor a comment starts with the character. -/
def Leads (c : Char) : Prop := isSeparator c = false ∧ c ≠ '/'

instance (c : Char) : Decidable (Leads c) := inferInstanceAs (Decidable (_ ∧ _))

theorem lexemes?_nil : lexemes? [] = some [] := by
  rw [lexemes?]
  split <;> simp_all [skipBlanks?]

theorem lexemes?_of_lexeme? (leads : Leads c) (h : lexeme? (c :: rest) = some (l, after)) :
    lexemes? (c :: rest) = (lexemes? after).map (l :: ·) := by
  have skip : skipBlanks? (c :: rest) = some (c :: rest) := by
    rw [skipBlanks?, if_neg (by simp [leads.1]), if_neg leads.2]
  rw [lexemes?]
  split <;> simp_all
  split <;> simp_all

/-- What starts with none of these is a mark, a name or a numeral. -/
def specialStarts : List Char := ['"', '\'', 'r', 'b', '(']

theorem lexeme?_eq_word? (h : c ∉ specialStarts) :
    lexeme? (c :: cs) = if isMark c then some (.mark c, cs) else word? c cs := by
  simp only [specialStarts, List.mem_cons, List.not_mem_nil, or_false, not_or] at h
  unfold lexeme?
  split <;> simp_all

theorem lexemes?_mark (h : c ∈ [')', '[', ']', ':', ',']) (rest : List Char) :
    lexemes? (c :: rest) = (lexemes? rest).map (.mark c :: ·) := by
  have known : c ∉ specialStarts ∧ isMark c ∧ Leads c := by
    simp only [List.mem_cons, List.not_mem_nil, or_false] at h
    rcases h with rfl | rfl | rfl | rfl | rfl <;> decide
  obtain ⟨other, mark, leads⟩ := known
  exact lexemes?_of_lexeme? leads (by rw [lexeme?_eq_word? other, if_pos mark])

theorem lexemes?_opening (h : rest.head? ≠ some ')') :
    lexemes? ('(' :: rest) = (lexemes? rest).map (.opening rest :: ·) := by
  refine lexemes?_of_lexeme? (by decide) ?_
  rw [lexeme?]
  rintro cs rfl
  exact h rfl

/-- A name that starts no other lexeme. -/
def isSimpleName : List Char → Bool
  | [] => false
  | c :: cs => specialStarts.all (· != c) && !isMark c && isIdentifierStart c &&
      cs.all isIdentifierPart && !isSeparator c && c != '/'

theorem lexemes?_name {name : List Char} (h : isSimpleName name)
    (ends : Avoids isIdentifierPart rest) :
    lexemes? (name ++ rest) = (lexemes? rest).map (.name name :: ·) := by
  cases name with
  | nil => cases h
  | cons c cs =>
    simp only [isSimpleName, Bool.and_eq_true, Bool.not_eq_true', bne_iff_ne, List.all_eq_true]
      at h
    obtain ⟨⟨⟨⟨⟨other, mark⟩, start⟩, parts⟩, separator⟩, slash⟩ := h
    rw [List.cons_append]
    refine lexemes?_of_lexeme? ⟨separator, slash⟩ ?_
    rw [lexeme?_eq_word? fun mem => other c mem rfl, if_neg (by simp [mark]), word?, if_pos start,
      ends.takeWhile_run parts, ends.dropWhile_run parts]

theorem lexemes?_field {name : List Char} (h : isSimpleName name) (rest : List Char) :
    lexemes? (name ++ ':' :: rest) =
      (lexemes? rest).map fun ls => .name name :: .mark ':' :: ls := by
  rw [lexemes?_name h (Avoids.cons_iff.2 (by decide)), lexemes?_mark (by decide), Option.map_map]
  rfl

theorem lexemes?_quote {marked : List Char} (marks : IsMarked marked) (cs rest : List Char) :
    lexemes? (quote marked cs ++ rest) = (lexemes? rest).map (.text cs :: ·) :=
  lexemes?_of_lexeme? (by decide) (lexeme?_quote marks cs rest)

/-- Texts with a comma between two of them. -/
theorem lexemes?_intercalate {marked : List Char} (marks : IsMarked marked)
    (texts : List (List Char)) (rest : List Char) :
    lexemes? ([','].intercalate (texts.map (quote marked)) ++ rest) =
      (lexemes? rest).map ((texts.map Lexeme.text).intersperse (.mark ',') ++ ·) := by
  induction texts with
  | nil => simp [List.intercalate]
  | cons cs texts ih =>
    cases texts with
    | nil => simpa [List.intercalate] using lexemes?_quote marks cs rest
    | cons ds texts =>
      simp only [List.intercalate, List.map_cons, List.intersperse_cons_cons,
        List.flatten_cons, List.append_assoc, List.cons_append, List.nil_append] at ih ⊢
      rw [lexemes?_quote marks, lexemes?_mark (by decide), ih]
      simp only [Option.map_map, Function.comp_def]

theorem isWordPart_of_isPointed (h : IsPointed c) : isWordPart c := by
  rcases h with digit | rfl | rfl
  · simp [isWordPart, isIdentifierPart, Char.isAlphanum, digit]
  · decide
  · decide

theorem classes_of_isPointed (h : IsPointed c) :
    c ∉ specialStarts ∧ isMark c = false ∧ isIdentifierStart c = false ∧
      startsNumeral c ∧ Leads c := by
  rcases h with digit | rfl | rfl
  · have bounds : 48 ≤ c.toNat ∧ c.toNat ≤ 57 := Char.isDigit_iff_toNat.1 digit
    obtain ⟨n, lt, eq⟩ : ∃ n < 58, c = Char.ofNat n :=
      ⟨c.toNat, by omega, (Char.ofNat_toNat c).symm⟩
    have digits : ∀ n < 58, (Char.ofNat n).isDigit →
        Char.ofNat n ∉ specialStarts ∧ isMark (Char.ofNat n) = false ∧
        isIdentifierStart (Char.ofNat n) = false ∧ startsNumeral (Char.ofNat n) ∧
        Leads (Char.ofNat n) := by decide +kernel
    rw [eq] at digit ⊢
    exact digits n lt digit
  · decide
  · decide

theorem lexemes?_numeral {numeral : List Char} (nonempty : numeral ≠ [])
    (all : ∀ c ∈ numeral, IsPointed c) (ends : Avoids isWordPart rest) :
    lexemes? (numeral ++ rest) = (lexemes? rest).map (.numeral numeral :: ·) := by
  cases numeral with
  | nil => exact absurd rfl nonempty
  | cons c cs =>
    obtain ⟨other, mark, start, number, leads⟩ :=
      classes_of_isPointed (all c (List.mem_cons_self ..))
    have parts : ∀ d ∈ cs, isWordPart d := fun d mem =>
      isWordPart_of_isPointed (all d (.tail _ mem))
    rw [List.cons_append]
    refine lexemes?_of_lexeme? leads ?_
    rw [lexeme?_eq_word? other, if_neg (by simp [mark]), word?, if_neg (by simp [start]),
      if_pos number, ends.takeWhile_run parts, ends.dropWhile_run parts]

variable {α : Type} {lexemes front behind : List Lexeme} {dialect : Dialect} {depth : ℕ}

/-- The reading succeeds with this answer and leaves these lexemes. -/
def Gives (r : Reading α lexemes) (a : α) (left : List Lexeme) : Prop :=
  ∃ shorter, r = some (a, ⟨left, shorter⟩)

theorem gives_mark (c : Char) (behind : List Lexeme) :
    Gives (mark? c (.mark c :: behind)) () behind :=
  ⟨_, if_pos rfl⟩

theorem mark?_of_ne (h : l ≠ .mark c) : mark? c (l :: behind) = none := by
  cases l with
  | mark c' => exact if_neg fun same => h (congrArg Lexeme.mark same)
  | _ => rfl

theorem gives_separator_closing (c : Char) (behind : List Lexeme) :
    Gives (separator? c (.mark c :: behind)) true behind :=
  ⟨_, if_pos rfl⟩

theorem gives_separator_comma {closing : Char} (comma : closing ≠ ',') (h : ∀ c, l ≠ .mark c) :
    Gives (separator? closing (.mark ',' :: l :: behind)) false (l :: behind) := by
  refine ⟨Nat.lt_succ_self _, ?_⟩
  cases l with
  | mark c => exact absurd rfl (h c)
  | _ => simp [separator?, Ne.symm comma]

/-- A lexeme is a value by itself, and so is a name if no parentheses follow it. -/
theorem gives_leaf (leaf : isLeaf l) (other : l ≠ optionName)
    (alone : namesGroup l → ∃ c left, behind = .mark c :: left) :
    Gives (value? dialect depth (l :: behind)) (.lexeme l) behind := by
  refine ⟨Nat.lt_succ_self _, ?_⟩
  by_cases group : namesGroup l
  · obtain ⟨c, left, rfl⟩ := alone group
    cases l with
    | mark _ | opening _ => cases leaf
    | _ =>
      rw [value?.eq_def]
      dsimp only
      rw [if_neg other, if_pos group]
  · cases l with
    | mark _ | opening _ => cases leaf
    | _ =>
      rw [value?.eq_def]
      dsimp only
      rw [if_neg other, if_neg group, if_pos leaf]

theorem gives_text (cs : List Char) (behind : List Lexeme) :
    Gives (value? dialect depth (.text cs :: behind)) (.lexeme (.text cs)) behind :=
  gives_leaf rfl nofun nofun

theorem gives_numeral (number : isNumber cs) (behind : List Lexeme) :
    Gives (value? dialect depth (.numeral cs :: behind)) (.lexeme (.numeral cs)) behind :=
  gives_leaf number nofun nofun

theorem gives_name (h : cs ≠ "Some".toList) (c : Char) (behind : List Lexeme) :
    Gives (value? dialect depth (.name cs :: .mark c :: behind)) (.lexeme (.name cs))
      (.mark c :: behind) :=
  gives_leaf rfl (fun same => h (Lexeme.name.inj same)) fun _ => ⟨c, behind, rfl⟩

theorem gives_lastItem {item : Value}
    (value : Gives (value? dialect depth front) item (.mark ']' :: behind)) :
    Gives (moreItems? dialect (depth + 1) ']' front) [item] behind := by
  obtain ⟨shorter, read⟩ := value
  obtain ⟨shorter', closing⟩ := gives_separator_closing ']' behind
  refine ⟨Nat.lt_trans shorter' shorter, ?_⟩
  rw [moreItems?]
  simp only [read, closing]

/-- An item with others after it. -/
theorem gives_item {item : Value} {items : List Value} {left : List Lexeme}
    (value : Gives (value? dialect depth front) item (.mark ',' :: l :: behind))
    (other : ∀ c, l ≠ .mark c)
    (more : Gives (moreItems? dialect (depth + 1) ']' (l :: behind)) items left) :
    Gives (moreItems? dialect (depth + 1) ']' front) (item :: items) left := by
  obtain ⟨shorter, read⟩ := value
  obtain ⟨shorter', comma⟩ := @gives_separator_comma l behind ']' (by decide) other
  obtain ⟨shorter₃, others⟩ := more
  refine ⟨Nat.lt_trans shorter₃ (Nat.lt_trans shorter' shorter), ?_⟩
  rw [moreItems?]
  simp only [read, comma, others]

/-- The lexemes of a list of texts after its opening mark. -/
def textItems (texts : List (List Char)) (behind : List Lexeme) : List Lexeme :=
  (texts.map Lexeme.text).intersperse (.mark ',') ++ .mark ']' :: behind

theorem exists_textItems_cons (cs : List Char) (texts : List (List Char)) :
    ∃ left, textItems (cs :: texts) behind = .text cs :: left := by
  cases texts <;> exact ⟨_, rfl⟩

theorem gives_textItems (cs : List Char) (texts : List (List Char)) (behind : List Lexeme) :
    Gives (moreItems? dialect (depth + 1) ']' (textItems (cs :: texts) behind))
      ((cs :: texts).map (Value.lexeme ∘ .text)) behind := by
  induction texts generalizing cs with
  | nil => exact gives_lastItem (gives_text cs (.mark ']' :: behind))
  | cons ds texts ih =>
    have more := ih ds
    obtain ⟨left, front⟩ := @exists_textItems_cons behind ds texts
    have whole : textItems (cs :: ds :: texts) behind =
        .text cs :: .mark ',' :: textItems (ds :: texts) behind := rfl
    rw [whole, front]
    rw [front] at more
    exact gives_item (gives_text cs _) nofun more

theorem gives_list (texts : List (List Char)) (behind : List Lexeme) :
    Gives (value? dialect (depth + 2) (.mark '[' :: textItems texts behind))
      (.list (texts.map (Value.lexeme ∘ .text))) behind := by
  have items : Gives (items? dialect (depth + 1) ']' (textItems texts behind))
      (texts.map (Value.lexeme ∘ .text)) behind := by
    cases texts with
    | nil =>
      obtain ⟨shorter, closing⟩ := gives_mark ']' behind
      change Gives (items? _ _ _ (.mark ']' :: behind)) _ _
      refine ⟨shorter, ?_⟩
      rw [items?, closing]
      rfl
    | cons cs texts =>
      have more := @gives_textItems dialect depth cs texts behind
      obtain ⟨left, front⟩ := @exists_textItems_cons behind cs texts
      rw [front] at more ⊢
      obtain ⟨shorter, read⟩ := more
      refine ⟨shorter, ?_⟩
      rw [items?, mark?_of_ne (by simp)]
      exact read
  obtain ⟨shorter, read⟩ := items
  refine ⟨Nat.lt_succ_of_lt shorter, ?_⟩
  rw [value?]
  simp only [read]

/-- The last field of a record. -/
theorem gives_lastEntry {name : List Char} {item : Value}
    (value : Gives (value? dialect depth front) item (.mark ')' :: behind)) :
    Gives (moreEntries? dialect (depth + 1) true ')' (.name name :: .mark ':' :: front))
      [(.lexeme (.name name), item)] behind := by
  obtain ⟨shorter, read⟩ := value
  obtain ⟨shorter', closing⟩ := gives_separator_closing ')' behind
  refine ⟨?_, ?_⟩
  · simp only [List.length_cons] at *
    omega
  · rw [moreEntries?]
    simp only [if_true, fieldName?, name?, Option.isSome_some, mark?, read, closing]

/-- A field with others after it. -/
theorem gives_entry {name next : List Char} {item : Value} {entries : List (Value × Value)}
    {left : List Lexeme}
    (value : Gives (value? dialect depth front) item (.mark ',' :: .name next :: behind))
    (more : Gives (moreEntries? dialect (depth + 1) true ')' (.name next :: behind)) entries left) :
    Gives (moreEntries? dialect (depth + 1) true ')' (.name name :: .mark ':' :: front))
      ((.lexeme (.name name), item) :: entries) left := by
  obtain ⟨shorter, read⟩ := value
  obtain ⟨shorter', comma⟩ := @gives_separator_comma (.name next) behind ')' (by decide) (by simp)
  obtain ⟨shorter₃, others⟩ := more
  refine ⟨?_, ?_⟩
  · simp only [List.length_cons] at *
    omega
  · rw [moreEntries?]
    simp only [if_true, fieldName?, name?, Option.isSome_some, mark?, read, comma, others]

/-- A record without a name in front of it. -/
theorem record?_of_gives {name : String} {text first : List Char} {entries : List (Value × Value)}
    (scanned : lexemes? text = some (.opening after :: .name first :: behind))
    (read : Gives (moreEntries? (.ofFeatures []) (depthLimit - 1) true ')' (.name first :: behind))
      entries []) : record? name text = some entries := by
  obtain ⟨shorter, read⟩ := read
  have header : header? (.opening after :: .name first :: behind) =
      some ([], .opening after :: .name first :: behind) := by
    rw [header?] <;> simp
  have start : recordStart? name (Dialect.ofFeatures []).namedRecord
      (.opening after :: .name first :: behind) = some (.name first :: behind) := by
    simp [recordStart?, name?, opened?, Dialect.ofFeatures]
  have all : entries? (.ofFeatures []) (depthLimit - 1) true ')' (.name first :: behind) =
      some (entries, ⟨[], shorter⟩) := by
    rw [entries?, mark?_of_ne (by simp)]
    exact read
  simp only [record?, scanned, Option.bind_eq_bind, Option.bind_some, header, start, all]

end Calculator.Stored

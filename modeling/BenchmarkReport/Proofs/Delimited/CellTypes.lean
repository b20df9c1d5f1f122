/-
This file says which type a cell has by itself, when the reader takes it for one of that type, and
that it can be read as one.
-/

import BenchmarkReport.Delimited.Cell
import BenchmarkReport.Proofs.Delimited.Header
import BenchmarkReport.Proofs.Number.Grammar

namespace BenchmarkReport.Delimited

open Text Number

/-- A truth value is written in small letters. -/
def IsTruth (text : List Char) : Prop :=
  text = "true".toList ∨ text = "false".toList

/-- Every digit is one of the first script. -/
def HasPlainDigits (text : List Char) : Prop :=
  ∀ symbol ∈ text, isAnyDigit symbol = true → isDigit symbol = true

/-- The names of the values that are no finite numbers. -/
def IsSpecial (text : List Char) : Prop :=
  dropSign text = "inf".toList ∨ dropSign text = "NaN".toList

section Digits

variable {symbol : Char}

theorem isAnyDigit_of_isDigit (digit : isDigit symbol = true) : isAnyDigit symbol = true := by
  obtain ⟨above, below⟩ := toNat_of_isDigit digit
  refine List.any_eq_true.mpr ⟨0x30, List.mem_cons_self, ?_⟩
  simp only [Bool.and_eq_true, decide_eq_true_eq]
  omega

/-- No digit is a letter in another case. -/
theorem foldLetter_of_isDigit (digit : isDigit symbol = true) : foldLetter symbol = symbol := by
  obtain ⟨above, below⟩ := toNat_of_isDigit digit
  have noCapital : ¬ (symbol.val ≥ 'A'.val ∧ symbol.val ≤ 'Z'.val) := by
    rintro ⟨capital, -⟩
    have value : 0x41 ≤ symbol.toNat := UInt32.le_iff_toNat_le.mp capital
    omega
  rw [foldLetter, if_neg (by omega)]
  exact dif_neg noCapital

end Digits

section Signs

variable {sign rest text : List Char}

/-- A sign ends where a text without a sign in front begins. -/
theorem dropSign_append (signed : IsSign sign) (noMinus : rest.head? ≠ some '-')
    (noPlus : rest.head? ≠ some '+') : dropSign (sign ++ rest) = rest := by
  cases signed with
  | absent =>
      rw [List.nil_append]
      unfold dropSign
      split <;> simp_all
  | minus => rfl
  | plus => rfl

theorem exists_sign (text : List Char) : ∃ sign, IsSign sign ∧ text = sign ++ dropSign text := by
  unfold dropSign
  split
  · exact ⟨['-'], .minus, rfl⟩
  · exact ⟨['+'], .plus, rfl⟩
  · exact ⟨[], .absent, rfl⟩

end Signs

section Numerals

variable {digits whole rest : List Char}

theorem allDigits_of_isNumeral (numeral : IsNumeral digits) : allDigits digits = true := by
  have present : digits.isEmpty = false := List.isEmpty_eq_false_iff.mpr numeral.1
  have digitsOnly : digits.all isAnyDigit = true :=
    List.all_eq_true.mpr fun symbol member => isAnyDigit_of_isDigit (numeral.2 symbol member)
  rw [allDigits, present, digitsOnly]
  rfl

theorem isNumeral_of_allDigits (plain : HasPlainDigits digits) (all : allDigits digits = true) :
    IsNumeral digits := by
  simp only [allDigits, Bool.and_eq_true, Bool.not_eq_true',
    List.isEmpty_eq_false_iff] at all
  exact ⟨all.1, fun symbol member => plain symbol member (List.all_eq_true.mp all.2 symbol member)⟩

end Numerals

section Exponents

variable {text : List Char}

theorem looksExponent_of_isExponent (exponent : IsExponent text) : looksExponent text = true := by
  obtain ⟨letterE, signed, numeral⟩ := exponent
  have magnitude := dropSign_append signed (numeral.head?_ne (by decide))
    (numeral.head?_ne (by decide))
  rw [looksExponent, magnitude, allDigits_of_isNumeral numeral, Bool.and_true]
  rcases letterE with rfl | rfl <;> rfl

theorem isExponent_of_looksExponent (plain : HasPlainDigits text)
    (looks : looksExponent text = true) : IsExponent text := by
  cases text with
  | nil => simp [looksExponent] at looks
  | cons letter rest =>
      simp only [looksExponent, Bool.and_eq_true, Bool.or_eq_true, beq_iff_eq] at looks
      obtain ⟨sign, signed, shape⟩ := exists_sign rest
      have numeral : IsNumeral (dropSign rest) := by
        refine isNumeral_of_allDigits ?_ looks.2
        intro symbol member
        refine plain symbol (List.mem_cons_of_mem letter ?_)
        rw [shape]
        exact List.mem_append_right sign member
      rw [shape]
      exact .scaled looks.1 signed numeral

end Exponents

section Reals

variable {text whole rest : List Char}

/-- Whether digits and the text behind them make a number with a point or an exponent. -/
def looksScaled (whole rest : List Char) : Bool :=
  match rest with
  | '.' :: after =>
    let fraction := after.takeWhile isAnyDigit
    let tail := after.dropWhile isAnyDigit
    if fraction.isEmpty then !whole.isEmpty && tail.isEmpty
    else tail.isEmpty || looksExponent tail
  | _ => !whole.isEmpty && looksExponent rest

theorem looksReal_eq (text : List Char) : looksReal text =
    (dropSign text == "inf".toList || dropSign text == "NaN".toList ||
      looksScaled ((dropSign text).takeWhile isAnyDigit)
        ((dropSign text).dropWhile isAnyDigit)) := rfl

/-- What is behind the digits decides. -/
theorem looksReal_of_looksScaled {sign : List Char} (signed : IsSign sign)
    (wholeDigits : ∀ symbol ∈ whole, isDigit symbol = true)
    (behind : ∀ symbol, rest.head? = some symbol →
      symbol ≠ '-' ∧ symbol ≠ '+' ∧ isAnyDigit symbol = false)
    (looks : looksScaled whole rest = true) : looksReal (sign ++ (whole ++ rest)) = true := by
  have magnitude : dropSign (sign ++ (whole ++ rest)) = whole ++ rest := by
    refine dropSign_append signed ?_ ?_
    · exact head?_digits_append wholeDigits (by decide) fun front => (behind '-' front).1 rfl
    · exact head?_digits_append wholeDigits (by decide) fun front => (behind '+' front).2.1 rfl
  obtain ⟨front, back⟩ := takeWhile_digits
    (fun symbol member => isAnyDigit_of_isDigit (wholeDigits symbol member))
    fun symbol front => (behind symbol front).2.2
  rw [looksReal_eq, magnitude, front, back, looks, Bool.or_true]

theorem looksReal_of_isDecimal (decimal : IsDecimal text) : looksReal text = true := by
  cases decimal with
  | fraction signed wholeDigits numeral scaled =>
      rename_i sign whole digits exponent
      refine looksReal_of_looksScaled signed wholeDigits (by simp; decide) ?_
      have stops : ∀ symbol, exponent.head? = some symbol → isAnyDigit symbol = false := by
        intro symbol front
        rcases scaled with rfl | scaled
        · simp at front
        · rcases scaled.head_eq front with rfl | rfl <;> decide
      obtain ⟨fraction, tail⟩ := takeWhile_digits
        (fun symbol member => isAnyDigit_of_isDigit (numeral.2 symbol member)) stops
      have present : digits.isEmpty = false := List.isEmpty_eq_false_iff.mpr numeral.1
      simp only [looksScaled, fraction, tail, present, Bool.false_eq_true, if_false]
      rcases scaled with rfl | scaled
      · rfl
      · rw [looksExponent_of_isExponent scaled, Bool.or_true]
  | point signed numeral =>
      refine looksReal_of_looksScaled signed numeral.2 (by simp; decide) ?_
      simp [looksScaled, numeral.1]
  | power signed numeral scaled =>
      rename_i sign whole exponent
      have letterE (symbol : Char) (front : exponent.head? = some symbol) :
          symbol = 'e' ∨ symbol = 'E' := scaled.head_eq front
      refine looksReal_of_looksScaled signed numeral.2 ?_ ?_
      · intro symbol front
        rcases letterE symbol front with rfl | rfl <;> decide
      · have noPoint : ∀ after, exponent ≠ '.' :: after := by
          rintro after rfl
          simpa using letterE '.' rfl
        unfold looksScaled
        split
        · exact absurd rfl (noPoint _)
        · simp [numeral.1, looksExponent_of_isExponent scaled]

/-- Digits cut off the front of a text with plain digits. -/
theorem HasPlainDigits.takeWhile (plain : HasPlainDigits text) :
    ∀ symbol ∈ text.takeWhile isAnyDigit, isDigit symbol = true := by
  intro symbol member
  exact plain symbol ((List.takeWhile_prefix isAnyDigit).subset member)
    (List.mem_takeWhile_imp member)

theorem HasPlainDigits.of_subset (plain : HasPlainDigits text) (within : rest ⊆ text) :
    HasPlainDigits rest :=
  fun symbol member => plain symbol (within member)

theorem isDecimal_of_looksScaled {sign : List Char} (signed : IsSign sign)
    (wholeDigits : ∀ symbol ∈ whole, isDigit symbol = true) (plain : HasPlainDigits rest)
    (looks : looksScaled whole rest = true) : IsDecimal (sign ++ (whole ++ rest)) := by
  unfold looksScaled at looks
  split at looks
  · rename_i after
    have plainAfter : HasPlainDigits after := plain.of_subset (List.subset_cons_self '.' after)
    have parts : after = after.takeWhile isAnyDigit ++ after.dropWhile isAnyDigit :=
      List.takeWhile_append_dropWhile.symm
    have fractionDigits := plainAfter.takeWhile
    have plainTail : HasPlainDigits (after.dropWhile isAnyDigit) :=
      plainAfter.of_subset (List.dropWhile_suffix isAnyDigit).subset
    generalize after.takeWhile isAnyDigit = fraction at parts fractionDigits looks
    generalize after.dropWhile isAnyDigit = tail at parts plainTail looks
    subst parts
    by_cases empty : fraction = []
    · simp only [empty, List.isEmpty_nil, if_true, Bool.and_eq_true, Bool.not_eq_true',
        List.isEmpty_eq_false_iff, List.isEmpty_iff] at looks
      rw [empty, looks.2]
      exact .point signed ⟨looks.1, wholeDigits⟩
    · simp only [List.isEmpty_eq_false_iff.mpr empty, Bool.false_eq_true, if_false,
        Bool.or_eq_true, List.isEmpty_iff] at looks
      refine .fraction signed wholeDigits ⟨empty, fractionDigits⟩ ?_
      exact looks.imp_right (isExponent_of_looksExponent plainTail)
  · simp only [Bool.and_eq_true, Bool.not_eq_true', List.isEmpty_eq_false_iff] at looks
    exact .power signed ⟨looks.1, wholeDigits⟩ (isExponent_of_looksExponent plain looks.2)

/-- A text whose digits are plain looks like a real if it is one. -/
theorem isDecimal_of_looksReal (plain : HasPlainDigits text) (ordinary : ¬ IsSpecial text)
    (looks : looksReal text = true) : IsDecimal text := by
  obtain ⟨sign, signed, shape⟩ := exists_sign text
  have plainMagnitude : HasPlainDigits (dropSign text) := by
    apply plain.of_subset
    intro symbol member
    rw [shape]
    exact List.mem_append_right sign member
  have scaled : looksScaled ((dropSign text).takeWhile isAnyDigit)
      ((dropSign text).dropWhile isAnyDigit) = true := by
    rw [looksReal_eq, Bool.or_eq_true, Bool.or_eq_true, beq_iff_eq, beq_iff_eq] at looks
    exact looks.resolve_left ordinary
  have decimal := isDecimal_of_looksScaled signed plainMagnitude.takeWhile
    (plainMagnitude.of_subset (List.dropWhile_suffix isAnyDigit).subset) scaled
  rwa [List.takeWhile_append_dropWhile, ← shape] at decimal

end Reals

section Symbols

variable {text whole rest : List Char}

variable (symbols : ∀ symbol ∈ text, isNumberSymbol symbol = true)

include symbols

theorem hasPlainDigits_of_symbols : HasPlainDigits text := by
  intro symbol member digit
  have number := symbols symbol member
  rw [isNumberSymbol, Bool.or_eq_true] at number
  rcases number with plain | mark
  · exact plain
  · have noDigits : ['-', '+', '.', 'e', 'E'].all (!isAnyDigit ·) = true := by decide
    have noDigit := List.all_eq_true.mp noDigits symbol (List.contains_iff_mem.mp mark)
    rw [digit] at noDigit
    exact Bool.noConfusion noDigit

theorem not_isSpecial_of_symbols : ¬ IsSpecial text := by
  obtain ⟨sign, -, shape⟩ := exists_sign text
  have within : ∀ symbol ∈ dropSign text, isNumberSymbol symbol = true := by
    intro symbol member
    apply symbols
    rw [shape]
    exact List.mem_append_right sign member
  rintro (infinity | noNumber)
  · exact absurd (within 'i' (by simp [infinity])) (by decide)
  · exact absurd (within 'N' (by simp [noNumber])) (by decide)

/-- No truth value starts with a symbol of a number. -/
theorem looksBoolean_of_symbols : looksBoolean text = false := by
  cases text with
  | nil => rfl
  | cons first rest =>
      have folded : foldLetter first ≠ 't' ∧ foldLetter first ≠ 'f' := by
        have number := symbols first List.mem_cons_self
        rw [isNumberSymbol, Bool.or_eq_true] at number
        rcases number with digit | mark
        · rw [foldLetter_of_isDigit digit]
          exact ⟨ne_of_isDigit digit (by decide), ne_of_isDigit digit (by decide)⟩
        · simp only [List.contains_iff_mem, List.mem_cons, List.not_mem_nil, or_false] at mark
          rcases mark with rfl | rfl | rfl | rfl | rfl <;> decide
      simp [looksBoolean, folded]

end Symbols

section Classes

variable {text : List Char}

theorem isDecimal_iff : IsDecimal text ↔
    HasPlainDigits text ∧ ¬ IsSpecial text ∧ looksReal text = true := by
  constructor
  · intro decimal
    exact ⟨hasPlainDigits_of_symbols decimal.symbols, not_isSpecial_of_symbols decimal.symbols,
      looksReal_of_isDecimal decimal⟩
  · rintro ⟨plain, ordinary, looks⟩
    exact isDecimal_of_looksReal plain ordinary looks

theorem isWhole_iff : IsWhole text ↔ HasPlainDigits text ∧ looksInteger text = true := by
  constructor
  · intro isWhole
    refine ⟨hasPlainDigits_of_symbols isWhole.symbols, ?_⟩
    cases isWhole with
    | negative numeral => exact allDigits_of_isNumeral numeral
    | positive numeral =>
        have unsigned : dropMinus text = text := by
          unfold dropMinus
          split
          · exact absurd rfl (numeral.head?_ne (by decide))
          · rfl
        rw [looksInteger, unsigned, allDigits_of_isNumeral numeral]
  · rintro ⟨plain, looks⟩
    unfold looksInteger dropMinus at looks
    split at looks
    · rename_i rest
      refine .negative (isNumeral_of_allDigits (plain.of_subset ?_) looks)
      exact List.subset_cons_self '-' rest
    · exact .positive (isNumeral_of_allDigits plain looks)

theorem hasPlainDigits_iff : HasPlainDigits text ↔
    text.all (fun symbol => !isAnyDigit symbol || isDigit symbol) = true := by
  simp only [HasPlainDigits, List.all_eq_true, Bool.or_eq_true, Bool.not_eq_true']
  refine forall₂_congr fun symbol _ => ?_
  cases isAnyDigit symbol <;> simp

instance : DecidablePred HasPlainDigits := fun _ => decidable_of_iff _ hasPlainDigits_iff.symm

instance : DecidablePred IsSpecial := fun text =>
  inferInstanceAs (Decidable (dropSign text = _ ∨ dropSign text = _))

instance : DecidablePred IsDecimal := fun _ => decidable_of_iff _ isDecimal_iff.symm

instance : DecidablePred IsWhole := fun _ => decidable_of_iff _ isWhole_iff.symm

instance : DecidablePred IsTruth := fun text =>
  inferInstanceAs (Decidable (text = _ ∨ text = _))

end Classes

/-- The type that a cell has by itself. -/
def cellType (cell : List Char) : ElementType :=
  if IsTruth cell then .boolean
  else if IsDecimal cell then .real .double
  else if IsWhole cell then .integer .signed64
  else .text

/-- All digits of a plain cell are of the first script, it is not the name of a special value, and
its letters are small where it is a truth value. -/
structure IsPlainCell (cell : List Char) : Prop where
  digits : HasPlainDigits cell
  ordinary : ¬ IsSpecial cell
  small : looksBoolean cell = true → IsTruth cell

section Types

variable {cell : List Char}

theorem isPlainCell_nil : IsPlainCell [] :=
  ⟨List.forall_mem_nil _, by decide, by decide⟩

/-- The symbols of numbers are plain. -/
theorem isPlainCell_of_symbols (symbols : ∀ symbol ∈ cell, isNumberSymbol symbol = true) :
    IsPlainCell cell where
  digits := hasPlainDigits_of_symbols symbols
  ordinary := not_isSpecial_of_symbols symbols
  small := by
    rw [looksBoolean_of_symbols symbols]
    exact fun truth => Bool.noConfusion truth

/-- The reader takes a plain cell for what it is. -/
theorem textType_of_isPlainCell (plain : IsPlainCell cell) (unquoted : '"' ∉ cell) :
    textType cell = cellType cell := by
  have truth : looksBoolean cell = true ↔ IsTruth cell := by
    refine ⟨plain.small, ?_⟩
    rintro (rfl | rfl) <;> decide
  have decimal : looksReal cell = true ↔ IsDecimal cell := by
    rw [isDecimal_iff]
    simp [plain.digits, plain.ordinary]
  have whole : looksInteger cell = true ↔ IsWhole cell := by
    rw [isWhole_iff]
    simp [plain.digits]
  rw [textType, isQuoted_of_not_mem unquoted]
  simp only [Bool.false_eq_true, if_false, truth, decimal, whole, cellType]

theorem IsTruth.not_number (truth : IsTruth cell) : ¬ IsDecimal cell ∧ ¬ IsWhole cell := by
  have letter : ∃ symbol ∈ cell, isNumberSymbol symbol = false := by
    rcases truth with rfl | rfl
    · exact ⟨'t', by decide, by decide⟩
    · exact ⟨'f', by decide, by decide⟩
  obtain ⟨symbol, member, strange⟩ := letter
  exact ⟨fun decimal => not_mem_of_symbols decimal.symbols strange member,
    fun isWhole => not_mem_of_symbols isWhole.symbols strange member⟩

theorem cellType_cases (cell : List Char) :
    cellType cell = .integer .signed64 ∨ cellType cell = .real .double ∨
      cellType cell = .boolean ∨ cellType cell = .text := by
  unfold cellType
  repeat' split
  all_goals simp

theorem cellType_eq_integer_iff : cellType cell = .integer .signed64 ↔ IsWhole cell := by
  unfold cellType
  split
  · rename_i truth
    simp [truth.not_number.2]
  · split
    · rename_i decimal
      simp [decimal.not_isWhole]
    · split <;> simp_all

theorem cellType_eq_real_iff : cellType cell = .real .double ↔ IsDecimal cell := by
  unfold cellType
  split
  · rename_i truth
    simp [truth.not_number.1]
  · split <;> simp_all
    split <;> simp

theorem cellType_eq_boolean_iff : cellType cell = .boolean ↔ IsTruth cell := by
  unfold cellType
  repeat' split
  all_goals simp_all

end Types

section Reading

variable {cell : List Char} {type : ElementType}

/-- A number that is read without spaces is read by its symbols. -/
theorem readNumber_of_symbols {read : List Char → Option Cell} {value : Cell} (filled : cell ≠ [])
    (symbols : ∀ symbol ∈ cell, isNumberSymbol symbol = true) (success : read cell = some value) :
    readNumber .character read cell = .ok value := by
  have unquoted : Delimited.unquoted .character cell = cell := by
    rw [Delimited.unquoted, isQuoted_of_not_mem (not_mem_of_symbols symbols (by decide))]
    rfl
  rw [readNumber, readSpaced, unquoted, success, if_neg (by simpa using filled)]

/-- An empty cell can be read as a value of every type, so that only the other ones matter. -/
theorem readCell_of_filled
    (filled : cell ≠ [] → ∃ value, readCell .character type cell = .ok value) :
    ∃ value, readCell .character type cell = .ok value := by
  by_cases empty : cell = []
  · exact ⟨.missing, by rw [empty, readCell_empty]⟩
  · exact filled empty

/-- A whole number of 64 bits reads as its value. -/
theorem readCell_of_isWhole {value : Int} (isWhole : IsWhole cell)
    (read : readInteger? cell = some value) (least : leastInteger ≤ value)
    (greatest : value ≤ greatestInteger) (kind : IntegerKind) :
    readCell .character (.integer kind) cell = .ok (.integer value) := by
  have number : integerCell? cell = some (.integer value) := by
    simp [integerCell?, read, least, greatest]
  rw [readCell, if_neg (by simpa using isWhole.ne_nil)]
  exact readNumber_of_symbols isWhole.ne_nil isWhole.symbols number

theorem readCell_of_isReal (isReal : IsWhole cell ∨ IsDecimal cell) (kind : RealKind) :
    ∃ value, readCell .character (.real kind) cell = .ok value := by
  refine readCell_of_filled fun filled => ?_
  have symbols : ∀ symbol ∈ cell, isNumberSymbol symbol = true :=
    isReal.elim IsWhole.symbols IsDecimal.symbols
  obtain ⟨value, read⟩ := isReal.elim readReal?_of_isWhole readReal?_of_isDecimal
  have number : realCell? cell = some (.real value) := by
    rw [realCell?, read]
    rfl
  rw [readCell, if_neg (by simpa using filled)]
  exact ⟨_, readNumber_of_symbols filled symbols number⟩

theorem readCell_of_isTruth (truth : IsTruth cell) :
    ∃ value, readCell .character .boolean cell = .ok value := by
  rcases truth with rfl | rfl
  · exact ⟨.boolean true, by rfl⟩
  · exact ⟨.boolean false, by rfl⟩

/-- Every cell without quotation marks is a text. -/
theorem readCell_of_unquoted (unquoted : '"' ∉ cell) :
    ∃ value, readCell .character .text cell = .ok value := by
  refine readCell_of_filled fun filled => ?_
  rw [readCell, if_neg (by simpa using filled)]
  exact ⟨_, readText_plain (isQuoted_of_not_mem unquoted)⟩

end Reading

/-- A text with another symbol than these is neither a number nor a truth value. -/
def isTypedSymbol (symbol : Char) : Bool :=
  isAnyDigit symbol || "+-.aefilnrstu".toList.contains (foldLetter symbol)

/-- A text that has the form of neither a truth value nor a number. -/
def IsWorded (text : List Char) : Prop :=
  looksBoolean text = false ∧ looksReal text = false ∧ looksInteger text = false

instance : DecidablePred IsWorded := fun _ => inferInstanceAs (Decidable (_ ∧ _ ∧ _))

section TypedSymbols

variable {text : List Char} {symbol : Char}

theorem isTypedSymbol_of_isAnyDigit (digit : isAnyDigit symbol = true) :
    isTypedSymbol symbol = true := by
  rw [isTypedSymbol, digit, Bool.true_or]

theorem isTypedSymbol_of_dropSign (typed : ∀ symbol ∈ dropSign text, isTypedSymbol symbol = true) :
    ∀ symbol ∈ text, isTypedSymbol symbol = true := by
  obtain ⟨sign, signed, shape⟩ := exists_sign text
  have signs : ∀ symbol ∈ sign, isTypedSymbol symbol = true := by
    cases signed with
    | absent => exact List.forall_mem_nil _
    | minus => exact List.forall_mem_singleton.mpr (by decide)
    | plus => exact List.forall_mem_singleton.mpr (by decide)
  rw [shape]
  exact List.forall_mem_append.mpr ⟨signs, typed⟩

theorem isTypedSymbol_of_allDigits (all : allDigits text = true) :
    ∀ symbol ∈ text, isTypedSymbol symbol = true := by
  intro symbol member
  rw [allDigits, Bool.and_eq_true] at all
  exact isTypedSymbol_of_isAnyDigit (List.all_eq_true.mp all.2 symbol member)

theorem isTypedSymbol_of_looksExponent (looks : looksExponent text = true) :
    ∀ symbol ∈ text, isTypedSymbol symbol = true := by
  cases text with
  | nil => exact List.forall_mem_nil _
  | cons letter rest =>
      simp only [looksExponent, Bool.and_eq_true, Bool.or_eq_true, beq_iff_eq] at looks
      refine List.forall_mem_cons.mpr ⟨?_, ?_⟩
      · rcases looks.1 with rfl | rfl <;> decide
      · exact isTypedSymbol_of_dropSign (isTypedSymbol_of_allDigits looks.2)

/-- The digits at the front of a text count by themselves. -/
theorem isTypedSymbol_of_dropWhile
    (typed : ∀ symbol ∈ text.dropWhile isAnyDigit, isTypedSymbol symbol = true) :
    ∀ symbol ∈ text, isTypedSymbol symbol = true := by
  rw [← List.takeWhile_append_dropWhile (p := isAnyDigit) (l := text)]
  refine List.forall_mem_append.mpr ⟨fun symbol member => ?_, typed⟩
  exact isTypedSymbol_of_isAnyDigit (List.mem_takeWhile_imp member)

theorem isTypedSymbol_of_looksScaled {whole : List Char} (looks : looksScaled whole text = true) :
    ∀ symbol ∈ text, isTypedSymbol symbol = true := by
  unfold looksScaled at looks
  split at looks
  · rename_i after
    refine List.forall_mem_cons.mpr ⟨by decide, isTypedSymbol_of_dropWhile ?_⟩
    have tail : after.dropWhile isAnyDigit = [] ∨
        looksExponent (after.dropWhile isAnyDigit) = true := by
      dsimp only at looks
      split at looks
      · exact Or.inl (List.isEmpty_iff.mp (Bool.and_eq_true _ _ ▸ looks).2)
      · exact (Bool.or_eq_true _ _ ▸ looks).imp_left List.isEmpty_iff.mp
    rcases tail with none | exponent
    · rw [none]
      exact List.forall_mem_nil _
    · exact isTypedSymbol_of_looksExponent exponent
  · rw [Bool.and_eq_true] at looks
    exact isTypedSymbol_of_looksExponent looks.2

theorem isTypedSymbol_of_looksReal (looks : looksReal text = true) :
    ∀ symbol ∈ text, isTypedSymbol symbol = true := by
  apply isTypedSymbol_of_dropSign
  rw [looksReal_eq, Bool.or_eq_true, Bool.or_eq_true, beq_iff_eq, beq_iff_eq] at looks
  rcases looks with (infinity | noNumber) | scaled
  · rw [infinity]
    exact List.all_eq_true.mp (by decide)
  · rw [noNumber]
    exact List.all_eq_true.mp (by decide)
  · exact isTypedSymbol_of_dropWhile (isTypedSymbol_of_looksScaled scaled)

theorem isTypedSymbol_of_looksInteger (looks : looksInteger text = true) :
    ∀ symbol ∈ text, isTypedSymbol symbol = true := by
  unfold looksInteger dropMinus at looks
  split at looks
  · exact List.forall_mem_cons.mpr ⟨by decide, isTypedSymbol_of_allDigits looks⟩
  · exact isTypedSymbol_of_allDigits looks

theorem isTypedSymbol_of_looksBoolean (looks : looksBoolean text = true) :
    ∀ symbol ∈ text, isTypedSymbol symbol = true := by
  intro symbol member
  have folded : foldLetter symbol ∈ "+-.aefilnrstu".toList := by
    have within : foldLetter symbol ∈ text.map foldLetter := List.mem_map_of_mem member
    simp only [looksBoolean, Bool.or_eq_true, beq_iff_eq] at looks
    rcases looks with truth | falsehood
    · rw [truth] at within
      exact (by decide : "true".toList ⊆ "+-.aefilnrstu".toList) within
    · rw [falsehood] at within
      exact (by decide : "false".toList ⊆ "+-.aefilnrstu".toList) within
  rw [isTypedSymbol, List.contains_iff_mem.mpr folded, Bool.or_true]

/-- One strange symbol is enough. -/
theorem isWorded_of_mem (member : symbol ∈ text) (strange : isTypedSymbol symbol = false) :
    IsWorded text := by
  have untyped {looks : Bool}
      (typed : looks = true → ∀ symbol ∈ text, isTypedSymbol symbol = true) : looks = false := by
    rw [Bool.eq_false_iff]
    intro holds
    exact Bool.noConfusion (strange.symm.trans (typed holds symbol member))
  exact ⟨untyped isTypedSymbol_of_looksBoolean, untyped isTypedSymbol_of_looksReal,
    untyped isTypedSymbol_of_looksInteger⟩

theorem textType_of_isWorded (worded : IsWorded text) : textType text = .text := by
  obtain ⟨noTruth, noReal, noInteger⟩ := worded
  rw [textType, noTruth, noReal, noInteger]
  exact ite_self ElementType.text

end TypedSymbols

end BenchmarkReport.Delimited

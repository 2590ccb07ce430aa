import Mathlib.Data.List.TakeWhile
import SourceAtlas.Json.Reader

/-!
# Reading back texts and numbers

What `quoted` writes is read back as the same text, and what is written of a
number is read back whole: the reader stops at the first character that cannot
go on with it.
-/

namespace SourceAtlas

namespace JsonValue

variable {rest : List Char}

/-! ## Texts in quotes -/

/-- The character of a small digit reads back as the digit. -/
theorem hexDigit?_digitChar {digit : Nat} (small : digit < 16) :
    hexDigit? (Nat.digitChar digit) = some digit := by
  revert digit
  decide

/-- A code of four digits reads back as written. -/
theorem hexCode?_hexCode {code : Nat} (small : code < 65536) :
    hexCode? (hexCode code ++ rest) = some (code, rest) := by
  have sum : 4096 * (code / 4096 % 16) + 256 * (code / 256 % 16) + 16 * (code / 16 % 16) +
      code % 16 = code := by omega
  simp only [hexCode, List.map_cons, List.map_nil, List.cons_append, List.nil_append, hexCode?,
    hexDigit?_digitChar (Nat.mod_lt _ (by decide : 0 < 16)), Option.bind_eq_bind, Option.bind_some,
    sum]

/-- A control character is read back from its code. -/
theorem codeEscape?_hexCode {c : Char} (control : c.toNat < 32) :
    codeEscape? (hexCode c.toNat ++ rest) = some (c, rest) := by
  rw [codeEscape?, hexCode?_hexCode (by omega)]
  simp only [Option.bind_eq_bind, Option.bind_some]
  rw [if_neg (by omega), if_neg (by omega), Char.ofNat_toNat]

/-- A character stands for itself inside quotes, or behind a backslash for what the reader takes
it for. -/
theorem escaped_cases (c : Char) :
    (escaped c = [c] ∧ c ≠ '"' ∧ c ≠ '\\' ∧ ¬c.toNat < 32) ∨
      ∃ code, escaped c = '\\' :: code ∧ ∀ rest, escape? (code ++ rest) = some (c, rest) := by
  rw [escaped]
  split_ifs with quote backslash newline carriage tab backspace feed control
  · subst quote
    exact .inr ⟨['"'], rfl, fun _ => rfl⟩
  · subst backslash
    exact .inr ⟨['\\'], rfl, fun _ => rfl⟩
  · exact .inr ⟨['n'], rfl, fun rest => newline ▸ rfl⟩
  · exact .inr ⟨['r'], rfl, fun rest => carriage ▸ rfl⟩
  · exact .inr ⟨['t'], rfl, fun rest => tab ▸ rfl⟩
  · exact .inr ⟨['b'], rfl, fun rest => backspace ▸ rfl⟩
  · exact .inr ⟨['f'], rfl, fun rest => feed ▸ rfl⟩
  · exact .inr ⟨'u' :: hexCode c.toNat, rfl, fun rest => codeEscape?_hexCode control⟩
  · exact .inl ⟨rfl, quote, backslash, control⟩

/-- One step of the reader undoes one step of the writer. -/
theorem quotedFrom?_escaped (fuel : Nat) (c : Char) (chars : List Char) :
    quotedFrom? (fuel + 1) (escaped c ++ chars) =
      (quotedFrom? fuel chars).map fun read => (c :: read.1, read.2) := by
  rcases escaped_cases c with ⟨plain, quote, backslash, control⟩ | ⟨code, written, read⟩
  · rw [plain, List.singleton_append, quotedFrom?, if_neg quote, if_neg backslash, if_neg control]
    cases quotedFrom? fuel chars <;> rfl
  · rw [written, List.cons_append, quotedFrom?, if_neg (by decide), if_pos rfl, read]
    simp only [Option.bind_eq_bind, Option.bind_some]
    cases quotedFrom? fuel chars <;> rfl

/-- A text is read back up to its closing quote. -/
theorem quotedFrom?_flatMap (chars rest : List Char) {fuel : Nat}
    (enough : (chars.flatMap escaped).length < fuel) :
    quotedFrom? fuel (chars.flatMap escaped ++ '"' :: rest) = some (chars, rest) := by
  induction chars generalizing fuel with
  | nil =>
    obtain ⟨fuel, rfl⟩ := Nat.exists_eq_succ_of_ne_zero (Nat.ne_of_gt enough)
    rfl
  | cons c chars inductionHypothesis =>
    rw [List.flatMap_cons, List.length_append] at enough
    obtain ⟨fuel, rfl⟩ := Nat.exists_eq_succ_of_ne_zero (Nat.ne_of_gt (Nat.zero_lt_of_lt enough))
    have written : 0 < (escaped c).length := by
      rcases escaped_cases c with ⟨plain, -⟩ | ⟨code, written, -⟩
      · simp [plain]
      · simp [written]
    rw [List.flatMap_cons, List.append_assoc, quotedFrom?_escaped,
      inductionHypothesis (by omega)]
    rfl

/-- A quoted text is its escaped characters between quotes. -/
theorem toList_quoted (text : String) :
    (quoted text).toList = '"' :: (text.toList.flatMap escaped ++ ['"']) := by
  simp [quoted]

/-! ## Numbers -/

/-- A text that does not go on with a number. -/
def EndsNumber (rest : List Char) : Prop :=
  ∀ c ∈ rest.head?, c.isDigit = false ∧ c ≠ '.' ∧ c ≠ 'e' ∧ c ≠ 'E'

/-- Digits, of which there is at least one. -/
structure IsDigits (chars : List Char) : Prop where
  ne_nil : chars ≠ []
  isDigit : ∀ c ∈ chars, c.isDigit = true

/-- The decimal form of a number is made of digits. -/
theorem isDigits_toDigits (value : Nat) : IsDigits (Nat.toDigits 10 value) where
  ne_nil := Nat.toDigits_ne_nil
  isDigit _ member := Nat.isDigit_of_mem_toDigits (by decide) (by decide) member

/-- A number is written in decimal form. -/
theorem toList_toString (value : Nat) : (toString value).toList = Nat.toDigits 10 value := by
  rw [Nat.toString_eq_ofList_toDigits, String.toList_ofList]

/-- The decimal form of a number has its value. -/
theorem digitsValue_toDigits (value : Nat) : digitsValue (Nat.toDigits 10 value) = value :=
  Nat.ofDigitChars_ten_toDigits

/-- Only the digits of zero start with a zero. -/
theorem head?_toDigits {value : Nat} (positive : 0 < value) :
    (Nat.toDigits 10 value).head? ≠ some '0' := by
  induction value using Nat.strongRecOn with
  | ind value inductionHypothesis =>
    rw [Nat.toDigits_eq_if (by decide)]
    split
    · next small =>
      revert positive
      clear inductionHypothesis
      revert value
      decide
    · next large =>
      rw [List.head?_append, Option.or_of_isSome (by simp [Nat.toDigits_ne_nil])]
      exact inductionHypothesis (value / 10) (by omega) (by omega)

namespace IsDigits

variable {digits : List Char}

/-- The digits in front of something else are found. -/
theorem takeWhile_append (isDigits : IsDigits digits) (ends : ∀ c ∈ rest.head?, c.isDigit = false) :
    (digits ++ rest).takeWhile Char.isDigit = digits := by
  rw [List.takeWhile_append_of_pos isDigits.isDigit]
  cases rest with
  | nil => simp
  | cons c rest => simp [ends c rfl]

/-- What stands behind the digits is found. -/
theorem dropWhile_append (isDigits : IsDigits digits) (ends : ∀ c ∈ rest.head?, c.isDigit = false) :
    (digits ++ rest).dropWhile Char.isDigit = rest := by
  rw [List.dropWhile_append_of_pos isDigits.isDigit]
  cases rest with
  | nil => rfl
  | cons c rest => simp [ends c rfl]

/-- Digits start with a digit. -/
theorem exists_cons (isDigits : IsDigits digits) :
    ∃ c more, digits = c :: more ∧ c.isDigit = true := by
  obtain ⟨c, more, rfl⟩ := List.exists_cons_of_ne_nil isDigits.ne_nil
  exact ⟨c, more, rfl, isDigits.isDigit c (by simp)⟩

end IsDigits

/-- The parts of a written number without its sign. -/
structure NumberText where
  whole : List Char
  fraction : Option (List Char)
  exponent : Option Int

namespace NumberText

/-- What is written behind the whole part. -/
def fractionChars (number : NumberText) : List Char :=
  match number.fraction with
  | some digits => '.' :: digits
  | none => []

/-- What is written at the end. -/
def exponentChars (number : NumberText) : List Char :=
  match number.exponent with
  | some exponent => 'e' :: (toString exponent).toList
  | none => []

/-- The written number. -/
def chars (number : NumberText) : List Char :=
  number.whole ++ (number.fractionChars ++ number.exponentChars)

/-- The whole part starts with a zero only when that is all of it, and digits follow a point. -/
structure WellFormed (number : NumberText) : Prop where
  whole : IsDigits number.whole
  leading : number.whole.head? = some '0' → number.whole.length = 1
  fraction : ∀ digits ∈ number.fraction, IsDigits digits

/-- The digits of an exponent read back with their sign. -/
theorem exponentDigits?_toDigits (negative : Bool) (size : Nat)
    (ends : ∀ c ∈ rest.head?, c.isDigit = false) :
    exponentDigits? negative (Nat.toDigits 10 size ++ rest) =
      some (some (if negative then -(size : Int) else size), rest) := by
  have isDigits := isDigits_toDigits size
  rw [exponentDigits?, isDigits.takeWhile_append ends, isDigits.dropWhile_append ends,
    digitsValue_toDigits]
  simp [isDigits.ne_nil]

/-- An exponent without a sign starts with its digits. -/
theorem exponent?_digit {c : Char} (digit : c.isDigit = true) :
    exponent? ('e' :: c :: rest) = exponentDigits? false (c :: rest) := by
  rw [exponent?, if_pos (.inl rfl)]
  · rintro more shape
    cases shape
    exact absurd digit (by decide)
  · rintro more shape
    cases shape
    exact absurd digit (by decide)

/-- An exponent reads back as written. -/
theorem exponent?_toString (exponent : Int) (ends : ∀ c ∈ rest.head?, c.isDigit = false) :
    exponent? ('e' :: (toString exponent).toList ++ rest) = some (some exponent, rest) := by
  cases exponent with
  | ofNat size =>
    have read := exponentDigits?_toDigits false size ends
    obtain ⟨c, more, shape, digit⟩ := (isDigits_toDigits size).exists_cons
    rw [shape, List.cons_append, ← exponent?_digit digit] at read
    rw [show toString (Int.ofNat size) = toString size from rfl, toList_toString, shape]
    exact read
  | negSucc size =>
    rw [show toString (Int.negSucc size) = "-" ++ toString (size + 1) from rfl,
      String.toList_append, toList_toString]
    exact exponentDigits?_toDigits true (size + 1) ends

/-- The exponent of a number reads back, also where there is none. -/
theorem exponent?_exponentChars (number : NumberText) (ends : EndsNumber rest) :
    exponent? (number.exponentChars ++ rest) = some (number.exponent, rest) := by
  rw [exponentChars]
  split
  · next exponent written =>
    rw [written]
    exact exponent?_toString exponent fun c member => (ends c member).1
  · next none =>
    rw [none, List.nil_append]
    cases rest with
    | nil => rfl
    | cons c rest =>
      obtain ⟨-, -, small, large⟩ := ends c rfl
      simp [exponent?, small, large]

/-- A fraction ends where an exponent begins, or where the number ends. -/
theorem head?_exponentChars (number : NumberText) (ends : EndsNumber rest) :
    ∀ c ∈ (number.exponentChars ++ rest).head?, c.isDigit = false ∧ c ≠ '.' := by
  intro c member
  rw [exponentChars] at member
  split at member
  · simp only [List.cons_append, List.head?_cons, Option.mem_some_iff] at member
    subst c
    decide
  · exact ⟨(ends c member).1, (ends c member).2.1⟩

/-- The fraction of a number reads back, also where there is none. -/
theorem fraction?_chars {number : NumberText} (wellFormed : number.WellFormed)
    (ends : EndsNumber rest) :
    fraction? (number.fractionChars ++ (number.exponentChars ++ rest)) =
      some (number.fraction, number.exponentChars ++ rest) := by
  have behind := number.head?_exponentChars ends
  have noDigit : ∀ c ∈ (number.exponentChars ++ rest).head?, c.isDigit = false :=
    fun c member => (behind c member).1
  rw [fractionChars]
  split
  · next digits written =>
    have isDigits := wellFormed.fraction digits written
    rw [written, List.cons_append, fraction?, isDigits.takeWhile_append noDigit,
      isDigits.dropWhile_append noDigit]
    simp [isDigits.ne_nil]
  · next none =>
    rw [none, List.nil_append, fraction?]
    intro chars shape
    exact (behind '.' (by rw [shape]; rfl)).2 rfl

/-- The whole part ends where the rest of the number begins, or where the number ends. -/
theorem head?_fractionChars (number : NumberText) (ends : EndsNumber rest) :
    ∀ c ∈ (number.fractionChars ++ (number.exponentChars ++ rest)).head?, c.isDigit = false := by
  intro c member
  rw [fractionChars] at member
  split at member
  · simp only [List.cons_append, List.head?_cons, Option.mem_some_iff] at member
    subst c
    decide
  · exact (number.head?_exponentChars ends c member).1

/-- A written number is read back part by part. -/
theorem WellFormed.number?_chars {number : NumberText} (wellFormed : number.WellFormed)
    (negative : Bool) (ends : EndsNumber rest) :
    number? negative (number.chars ++ rest) =
      some (numberOf negative number.whole number.fraction number.exponent, rest) := by
  have behind := number.head?_fractionChars ends
  have allowed : ¬(number.whole.isEmpty = true ∨
      (1 < number.whole.length ∧ number.whole.head? = some '0')) := by
    rintro (none | ⟨long, zero⟩)
    · exact wellFormed.whole.ne_nil (List.isEmpty_iff.mp none)
    · have short := wellFormed.leading zero
      omega
  rw [number?, chars, List.append_assoc, List.append_assoc,
    wellFormed.whole.takeWhile_append behind, wellFormed.whole.dropWhile_append behind,
    if_neg allowed, fraction?_chars wellFormed ends]
  simp only [Option.bind_eq_bind, Option.bind_some]
  rw [number.exponent?_exponentChars ends]
  rfl

/-- The text of a natural number. -/
def ofNat (value : Nat) : NumberText where
  whole := Nat.toDigits 10 value
  fraction := none
  exponent := none

/-- A natural number is written by its digits alone. -/
theorem chars_ofNat (value : Nat) : (ofNat value).chars = (toString value).toList := by
  rw [toList_toString, chars, ofNat, fractionChars, exponentChars, List.append_nil, List.append_nil]

/-- A natural number is written in the form of a number. -/
theorem wellFormed_ofNat (value : Nat) : (ofNat value).WellFormed where
  whole := isDigits_toDigits value
  leading zero := by
    rcases Nat.eq_zero_or_pos value with rfl | positive
    · rfl
    · exact absurd zero (head?_toDigits positive)
  fraction _ member := by cases member

end NumberText

/-- Some of the digits and zeros make digits. -/
theorem IsDigits.of_mem {digits parts : List Char} (isDigits : IsDigits digits)
    (ne_nil : parts ≠ []) (mem : ∀ c ∈ parts, c ∈ digits ∨ c = '0') : IsDigits parts where
  ne_nil
  isDigit c member := by
    rcases mem c member with inside | rfl
    · exact isDigits.isDigit c inside
    · decide

namespace NumberText

/-- The number with the given parts; a point comes only with digits behind it. -/
def layout (whole fraction : List Char) (exponent : Option Int) : NumberText where
  whole
  fraction := if fraction = [] then none else some fraction
  exponent

/-- A number is laid out as its whole part, its fraction and its exponent. -/
theorem chars_layout (whole fraction : List Char) (exponent : Option Int) :
    (layout whole fraction exponent).chars =
      whole ++ ((if fraction = [] then [] else '.' :: fraction) ++
        (exponent.map fun exponent => 'e' :: (toString exponent).toList).getD []) := by
  rw [layout, chars, fractionChars, exponentChars]
  split_ifs <;> cases exponent <;> rfl

/-- A number begins with another digit than zero, or with a lone zero. -/
theorem wellFormed_layout {digits whole fraction : List Char} (isDigits : IsDigits digits)
    (begins : whole = ['0'] ∨ ∃ first more, whole = first :: more ∧ first ≠ '0')
    (wholeMem : ∀ c ∈ whole, c ∈ digits ∨ c = '0')
    (fractionMem : ∀ c ∈ fraction, c ∈ digits ∨ c = '0') (exponent : Option Int) :
    (layout whole fraction exponent).WellFormed where
  whole := by
    refine isDigits.of_mem ?_ wholeMem
    rcases begins with rfl | ⟨first, more, rfl, -⟩ <;> exact List.cons_ne_nil _ _
  leading zero := by
    rcases begins with rfl | ⟨first, more, rfl, nonzero⟩
    · rfl
    · exact absurd (Option.some.inj zero) nonzero
  fraction parts member := by
    rw [layout] at member
    split at member
    · cases member
    · next some =>
      cases member
      exact isDigits.of_mem some fractionMem

end NumberText

/-- Every layout of a decimal is a well-formed number. -/
theorem exists_numberText (style : Decimal.TextStyle) (number : Decimal) :
    ∃ parts : NumberText, parts.WellFormed ∧
      (number.unsignedText style).toList = parts.chars := by
  have isDigits := isDigits_toDigits number.significand
  obtain ⟨first, others, shape, -⟩ := isDigits.exists_cons
  rw [shape] at isDigits
  have count : (toString number.significand).length = others.length + 1 := by
    rw [← String.length_toList, toList_toString, shape, List.length_cons]
  simp only [Decimal.unsignedText, count]
  generalize pointPlace : number.exponent + (others.length + 1 : Nat) = point
  split_ifs with blank whole inside behind single
  · exact ⟨.layout ['0'] ['0'] none,
      NumberText.wellFormed_layout isDigits (.inl rfl) (by simp) (by simp) none, rfl⟩
  all_goals
    have nonzero : first ≠ '0' := by
      have leading := head?_toDigits (Nat.pos_of_ne_zero blank)
      rw [shape] at leading
      simpa using leading
  · refine ⟨.layout (first :: (others ++ List.replicate number.exponent.toNat '0')) ['0'] none,
      NumberText.wellFormed_layout isDigits (.inr ⟨first, _, rfl, nonzero⟩) ?_ (by simp) none, ?_⟩
    · intro c member
      rw [List.mem_cons, List.mem_append, ← or_assoc] at member
      exact member.imp List.mem_cons.mpr List.eq_of_mem_replicate
    · simp [NumberText.chars_layout, shape]
  · obtain ⟨before, place⟩ : ∃ before, point.toNat = before + 1 :=
      Nat.exists_eq_succ_of_ne_zero (by omega)
    refine ⟨.layout (first :: others.take before) (others.drop before) none,
      NumberText.wellFormed_layout isDigits (.inr ⟨first, _, rfl, nonzero⟩) ?_ ?_ none, ?_⟩
    · intro c member
      rw [List.mem_cons] at member ⊢
      exact .inl (member.imp_right List.mem_of_mem_take)
    · intro c member
      exact .inl (List.mem_cons_of_mem first (List.mem_of_mem_drop member))
    · have more : others.drop before ≠ [] := by
        rw [Ne, List.drop_eq_nil_iff]
        omega
      rw [place]
      simp [NumberText.chars_layout, shape, more]
  · refine ⟨.layout ['0'] (List.replicate (-point).toNat '0' ++ first :: others) none,
      NumberText.wellFormed_layout isDigits (.inl rfl) (by simp) ?_ none, ?_⟩
    · intro c member
      rw [List.mem_append] at member
      exact member.symm.imp_right List.eq_of_mem_replicate
    · simp [NumberText.chars_layout, shape]
  · refine ⟨.layout [first] [] (some (point - 1)),
      NumberText.wellFormed_layout isDigits (.inr ⟨first, _, rfl, nonzero⟩) (by simp) (by simp) _,
      ?_⟩
    simp [NumberText.chars_layout, shape]
  · have more : others ≠ [] := by
      rintro rfl
      exact single rfl
    refine ⟨.layout [first] others (some (point - 1)),
      NumberText.wellFormed_layout isDigits (.inr ⟨first, _, rfl, nonzero⟩) (by simp) ?_ _, ?_⟩
    · exact fun c member => .inl (List.mem_cons_of_mem first member)
    · simp [NumberText.chars_layout, shape, more]

/-- What is read of a number that stands alone. -/
def rereadNumber (negative : Bool) (chars : List Char) : JsonValue :=
  ((number? negative chars).map Prod.fst).getD .null

/-- A well-formed number is read the same whatever stands behind it. -/
theorem number?_append {number : NumberText} (wellFormed : number.WellFormed) (negative : Bool)
    (ends : EndsNumber rest) :
    number? negative (number.chars ++ rest) = some (rereadNumber negative number.chars, rest) := by
  have alone := wellFormed.number?_chars negative (show EndsNumber [] by simp [EndsNumber])
  rw [List.append_nil] at alone
  rw [wellFormed.number?_chars negative ends, rereadNumber, alone]
  rfl

/-- Digits alone read back as a whole number. -/
theorem rereadNumber_toDigits (negative : Bool) (size : Nat) :
    rereadNumber negative (toString size).toList =
      numberOf negative (Nat.toDigits 10 size) none none := by
  have alone := (NumberText.wellFormed_ofNat size).number?_chars negative
    (show EndsNumber [] by simp [EndsNumber])
  rw [List.append_nil, NumberText.chars_ofNat] at alone
  rw [rereadNumber, alone]
  rfl

/-- An integer of 64 bits, with or without a sign, is read back. -/
theorem rereadNumber_integer {value : Int} (low : -(Word64.half : Int) ≤ value)
    (high : value < Word64.count) :
    rereadNumber (decide (value < 0)) (toString value.natAbs).toList = .integer value := by
  rw [rereadNumber_toDigits, numberOf, digitsValue_toDigits]
  by_cases negative : value < 0
  · have fits : 0 < (value.natAbs : Int) ∧ (value.natAbs : Int) ≤ Word64.half := by omega
    have signed : -(value.natAbs : Int) = value := by omega
    simp only [negative, decide_true, if_true, Option.isNone_none, fits, signed, and_true]
  · have signed : (value.natAbs : Int) = value := by omega
    simp only [negative, decide_false, Bool.false_eq_true, if_false, Option.isNone_none, true_and,
      high, if_true, signed]

end JsonValue

end SourceAtlas

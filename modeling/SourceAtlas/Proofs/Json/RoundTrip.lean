import SourceAtlas.Proofs.Json.Scalars

/-!
# Reading back written values

`parse?` undoes `render` up to the spelling of numbers: `reread` is the value
that comes back. It has the same texts, items and members in the same order,
and the same integers as far as they have 64 bits; a real number comes back as
the digits that were written of it.
-/

namespace SourceAtlas.JsonValue

/-- Induction over a value: an array comes after its items, an object after the values of its
members. -/
theorem induction_on_parts {motive : JsonValue → Prop} (null : motive .null)
    (boolean : ∀ value, motive (.boolean value)) (integer : ∀ value, motive (.integer value))
    (real : ∀ value, motive (.real value)) (text : ∀ value, motive (.text value))
    (array : ∀ items : List JsonValue, (∀ item ∈ items, motive item) → motive (.array items))
    (object : ∀ members : List (String × JsonValue),
      (∀ key value, (key, value) ∈ members → motive value) → motive (.object members)) :
    ∀ value, motive value
  | .null => null
  | .boolean value => boolean value
  | .integer value => integer value
  | .real value => real value
  | .text value => text value
  | .array items => array items fun item member => by
    have smaller := List.sizeOf_lt_of_mem member
    exact induction_on_parts null boolean integer real text array object item
  | .object members => object members fun key value member => by
    have smaller := List.sizeOf_lt_of_mem member
    have inside : sizeOf value < sizeOf (key, value) := by
      rw [Prod.mk.sizeOf_spec]
      omega
    exact induction_on_parts null boolean integer real text array object value
termination_by value => sizeOf value
decreasing_by
  · simp only [JsonValue.array.sizeOf_spec]
    omega
  · simp only [JsonValue.object.sizeOf_spec]
    omega

mutual

/-- What is read of the written form of a value. -/
def reread : JsonValue → JsonValue
  | .null => .null
  | .boolean value => .boolean value
  | .integer value => rereadNumber (decide (value < 0)) (toString value.natAbs).toList
  | .real value => rereadNumber value.negative (value.unsignedText realStyle).toList
  | .text value => .text value
  | .array items => .array (rereadItems items)
  | .object members => .object (rereadMembers members)

/-- What is read of the items of an array. -/
def rereadItems : List JsonValue → List JsonValue
  | [] => []
  | item :: rest => item.reread :: rereadItems rest

/-- What is read of the members of an object. -/
def rereadMembers : List (String × JsonValue) → List (String × JsonValue)
  | [] => []
  | (key, value) :: rest => (key, value.reread) :: rereadMembers rest

end

/-- The items of an array are read back one by one. -/
theorem rereadItems_eq (items : List JsonValue) : rereadItems items = items.map reread := by
  induction items with
  | nil => rfl
  | cons item rest inductionHypothesis => rw [rereadItems, inductionHypothesis, List.map_cons]

/-- The members of an object are read back one by one. -/
theorem rereadMembers_eq (members : List (String × JsonValue)) :
    rereadMembers members = members.map fun member => (member.1, member.2.reread) := by
  induction members with
  | nil => rfl
  | cons member rest inductionHypothesis =>
    obtain ⟨key, value⟩ := member
    rw [rereadMembers, inductionHypothesis, List.map_cons]

variable {rest : List Char} {fuel : Nat}

/-! ## Texts of values as character lists -/

/-- The items of an array without the brackets. -/
def itemsChars (items : List JsonValue) : List Char :=
  Text.joinChars [','] (items.map fun item => item.render.toList)

/-- The members of an object without the braces. -/
def membersChars (members : List (String × JsonValue)) : List Char :=
  Text.joinChars [',']
    (members.map fun member => (quoted member.1).toList ++ ':' :: member.2.render.toList)

/-- An array is written between brackets. -/
theorem toList_render_array (items : List JsonValue) :
    (render (.array items)).toList = '[' :: (itemsChars items ++ [']']) := by
  have rendered : renderItems items = items.map render := by
    induction items with
    | nil => rfl
    | cons item rest inductionHypothesis => rw [renderItems, inductionHypothesis, List.map_cons]
  rw [render, rendered, Text.join, itemsChars]
  simp only [String.toList_append, String.toList_ofList, List.map_map]
  rfl

/-- An object is written between braces. -/
theorem toList_render_object (members : List (String × JsonValue)) :
    (render (.object members)).toList = '\x7b' :: (membersChars members ++ ['\x7d']) := by
  have rendered : renderMembers members =
      members.map fun member => quoted member.1 ++ ":" ++ member.2.render := by
    induction members with
    | nil => rfl
    | cons member rest inductionHypothesis =>
      obtain ⟨key, value⟩ := member
      rw [renderMembers, inductionHypothesis, List.map_cons]
  rw [render, rendered, Text.join, membersChars]
  simp only [String.toList_append, String.toList_ofList, List.map_map]
  simp [Function.comp_def]

/-! ## Numbers -/

/-- The sign of a number. -/
def signChars (negative : Bool) : List Char := if negative then ['-'] else []

/-- A value that is written as a number. -/
structure IsNumber (value : JsonValue) (negative : Bool) (number : NumberText) : Prop where
  wellFormed : number.WellFormed
  written : value.render.toList = signChars negative ++ number.chars
  reread : value.reread = rereadNumber negative number.chars

/-- A whole number is written as its sign and its digits. -/
theorem isNumber_integer (value : Int) :
    IsNumber (.integer value) (decide (value < 0)) (.ofNat value.natAbs) where
  wellFormed := NumberText.wellFormed_ofNat value.natAbs
  written := by
    rw [NumberText.chars_ofNat, render]
    cases value with
    | ofNat size => rfl
    | negSucc size =>
      rw [show toString (Int.negSucc size) = "-" ++ toString (size + 1) from rfl,
        String.toList_append, decide_eq_true (Int.negSucc_lt_zero size)]
      rfl
  reread := by rw [JsonValue.reread, NumberText.chars_ofNat]

/-- A real number is written as a number. -/
theorem exists_isNumber_real (value : Decimal) :
    ∃ number, IsNumber (.real value) value.negative number := by
  obtain ⟨number, wellFormed, text⟩ := exists_numberText realStyle value
  refine ⟨number, wellFormed, ?_, by rw [JsonValue.reread, text]⟩
  rw [render, Decimal.text, String.toList_append, text, signChars]
  cases value.negative <;> rfl

/-- A digit is none of the special characters. -/
theorem ne_of_isDigit {c special : Char} (digit : c.isDigit = true)
    (other : special.isDigit = false) : c ≠ special := by
  rintro rfl
  rw [digit] at other
  cases other

/-- No digit is blank. -/
theorem isBlank_of_isDigit {c : Char} (digit : c.isDigit = true) : isBlank c = false := by
  have space := ne_of_isDigit digit (show ' '.isDigit = false by decide)
  have line := ne_of_isDigit digit (show '\n'.isDigit = false by decide)
  have tab := ne_of_isDigit digit (show '\t'.isDigit = false by decide)
  have carriage := ne_of_isDigit digit (show '\r'.isDigit = false by decide)
  simp [isBlank, space, line, tab, carriage]

/-- There is nothing to skip before a character that is not blank. -/
theorem skipBlanks_cons {c : Char} {chars : List Char} (ink : isBlank c = false) :
    skipBlanks (c :: chars) = c :: chars :=
  List.dropWhile_cons_of_neg (by simp [ink])

/-- A value that starts with a digit is a number. -/
theorem value?_digit {c : Char} {chars : List Char} (digit : c.isDigit = true) :
    value? (fuel + 1) (c :: chars) = number? false (c :: chars) := by
  rw [value?, skipBlanks_cons (isBlank_of_isDigit digit)]
  split
  case h_8 => rfl
  all_goals
    next shape =>
      exact absurd (List.head_eq_of_cons_eq shape) (ne_of_isDigit digit (by decide))

/-- A number is read back with its sign. -/
theorem value?_number {value : JsonValue} {negative : Bool} {number : NumberText}
    (isNumber : value.IsNumber negative number) (ends : EndsNumber rest) :
    value? (fuel + 1) (value.render.toList ++ rest) = some (value.reread, rest) := by
  rw [isNumber.written, isNumber.reread, ← number?_append isNumber.wellFormed negative ends]
  cases negative with
  | true => rfl
  | false =>
    obtain ⟨c, more, shape, digit⟩ := isNumber.wellFormed.whole.exists_cons
    rw [NumberText.chars, shape]
    exact value?_digit digit

/-! ## Values -/

/-- A written value starts with a character that opens a value. -/
structure Opens (chars : List Char) : Prop where
  exists_cons : ∃ c more, chars = c :: more ∧ isBlank c = false ∧ c ≠ ']'

/-- A number opens with its sign or a digit. -/
theorem IsNumber.opens {value : JsonValue} {negative : Bool} {number : NumberText}
    (isNumber : value.IsNumber negative number) : Opens value.render.toList where
  exists_cons := by
    rw [isNumber.written]
    cases negative with
    | true => exact ⟨'-', _, rfl, by decide, by decide⟩
    | false =>
      obtain ⟨c, more, shape, digit⟩ := isNumber.wellFormed.whole.exists_cons
      rw [NumberText.chars, shape]
      exact ⟨c, _, rfl, isBlank_of_isDigit digit, ne_of_isDigit digit (by decide)⟩

/-- Every rendered value opens with a character of its kind. -/
theorem opens_render (value : JsonValue) : Opens value.render.toList := by
  cases value with
  | null => exact ⟨'n', _, rfl, by decide, by decide⟩
  | boolean value =>
    cases value with
    | true => exact ⟨'t', _, rfl, by decide, by decide⟩
    | false => exact ⟨'f', _, rfl, by decide, by decide⟩
  | integer value => exact (isNumber_integer value).opens
  | real value =>
    obtain ⟨number, isNumber⟩ := exists_isNumber_real value
    exact isNumber.opens
  | text value => exact ⟨'"', _, toList_quoted value, by decide, by decide⟩
  | array items => exact ⟨'[', _, toList_render_array items, by decide, by decide⟩
  | object members => exact ⟨'\x7b', _, toList_render_object members, by decide, by decide⟩

/-- A value is read back from the start of a text, with fuel for its length. -/
def ReadsBack (value : JsonValue) : Prop :=
  ∀ fuel rest, value.render.toList.length ≤ fuel → EndsNumber rest →
    value? fuel (value.render.toList ++ rest) = some (value.reread, rest)

/-- What stands behind a part of an array or an object. -/
theorem endsNumber_cons {c : Char} (ends : c.isDigit = false ∧ c ≠ '.' ∧ c ≠ 'e' ∧ c ≠ 'E') :
    EndsNumber (c :: rest) := by
  intro other member
  cases member
  exact ends

/-- The items of an array are read back up to the bracket. -/
theorem items?_itemsChars {items : List JsonValue} (nonempty : items ≠ [])
    (readBack : ∀ item ∈ items, item.ReadsBack) (enough : (itemsChars items).length < fuel) :
    items? fuel (itemsChars items ++ ']' :: rest) = some (items.map reread, rest) := by
  induction items generalizing fuel with
  | nil => exact absurd rfl nonempty
  | cons item others inductionHypothesis =>
    obtain ⟨fuel, rfl⟩ := Nat.exists_eq_succ_of_ne_zero (Nat.ne_zero_of_lt enough)
    obtain ⟨here, readOthers⟩ := List.forall_mem_cons.mp readBack
    cases others with
    | nil =>
      simp only [itemsChars, List.map_cons, List.map_nil, Text.joinChars] at enough ⊢
      rw [items?, here fuel _ (by omega) (endsNumber_cons (by decide))]
      rfl
    | cons next others =>
      have shape : itemsChars (item :: next :: others) =
          item.render.toList ++ ',' :: itemsChars (next :: others) := by
        simp [itemsChars, Text.joinChars]
      rw [shape, List.length_append, List.length_cons] at enough
      have more := @inductionHypothesis fuel (List.cons_ne_nil next others) readOthers (by omega)
      rw [shape, List.append_assoc, List.cons_append, items?,
        here fuel _ (by omega) (endsNumber_cons (by decide))]
      simp only [Option.bind_eq_bind, Option.bind_some,
        skipBlanks_cons (show isBlank ',' = false by decide), more]
      rfl

/-- A text in quotes is read back from a text behind its opening quote. -/
theorem quotedFrom?_quoted (text : String) (rest : List Char) :
    quotedFrom? (text.toList.flatMap escaped ++ '"' :: rest).length.succ
      (text.toList.flatMap escaped ++ '"' :: rest) = some (text.toList, rest) := by
  refine quotedFrom?_flatMap text.toList rest ?_
  rw [List.length_append]
  omega

/-- The first member of an object is read back; the rest depends on what stands behind it. -/
theorem members?_member {key : String} {value : JsonValue} (readBack : value.ReadsBack)
    (enough : value.render.toList.length ≤ fuel) {c : Char} (ink : isBlank c = false)
    (ends : c.isDigit = false ∧ c ≠ '.' ∧ c ≠ 'e' ∧ c ≠ 'E') :
    members? (fuel + 1) ((quoted key).toList ++ ':' :: (value.render.toList ++ c :: rest)) =
      match c :: rest with
      | '\x7d' :: rest => some ([(key, value.reread)], rest)
      | ',' :: rest =>
        (members? fuel rest).bind fun read => some ((key, value.reread) :: read.1, read.2)
      | _ => none := by
  rw [toList_quoted, List.cons_append, List.append_assoc, List.singleton_append, members?,
    skipBlanks_cons (by decide)]
  simp only [quotedFrom?_quoted, Option.bind_eq_bind, Option.bind_some,
    skipBlanks_cons (show isBlank ':' = false by decide)]
  rw [readBack fuel (c :: rest) enough (endsNumber_cons ends)]
  simp only [Option.bind_some]
  rewrite [skipBlanks_cons ink, String.ofList_toList]
  rfl

/-- The members of an object are read back up to the brace. -/
theorem members?_membersChars {members : List (String × JsonValue)} (nonempty : members ≠ [])
    (readBack : ∀ member ∈ members, member.2.ReadsBack)
    (enough : (membersChars members).length < fuel) :
    members? fuel (membersChars members ++ '\x7d' :: rest) =
      some (members.map fun member => (member.1, member.2.reread), rest) := by
  induction members generalizing fuel with
  | nil => exact absurd rfl nonempty
  | cons member others inductionHypothesis =>
    obtain ⟨fuel, rfl⟩ := Nat.exists_eq_succ_of_ne_zero (Nat.ne_zero_of_lt enough)
    obtain ⟨here, readOthers⟩ := List.forall_mem_cons.mp readBack
    cases others with
    | nil =>
      have shape : membersChars [member] =
          (quoted member.1).toList ++ ':' :: member.2.render.toList := by
        simp [membersChars, Text.joinChars]
      rw [shape, List.length_append, List.length_cons] at enough
      rw [shape, List.append_assoc, List.cons_append,
        members?_member here (by omega) (by decide) (by decide)]
      rfl
    | cons next others =>
      have shape : membersChars (member :: next :: others) =
          (quoted member.1).toList ++
            ':' :: (member.2.render.toList ++ ',' :: membersChars (next :: others)) := by
        simp [membersChars, Text.joinChars]
      rw [shape, List.length_append, List.length_cons, List.length_append, List.length_cons]
        at enough
      have more := @inductionHypothesis fuel (List.cons_ne_nil next others) readOthers (by omega)
      rw [shape, List.append_assoc, List.cons_append, List.append_assoc, List.cons_append,
        members?_member here (by omega) (by decide) (by decide)]
      simp only [more, Option.bind_some]
      rfl

/-- A written value is not blank, so its length is fuel for a step. -/
theorem ReadsBack.of_step {value : JsonValue}
    (step : ∀ fuel rest, value.render.toList.length ≤ fuel + 1 → EndsNumber rest →
      value? (fuel + 1) (value.render.toList ++ rest) = some (value.reread, rest)) :
    value.ReadsBack := by
  intro fuel rest enough ends
  obtain ⟨c, more, opened, -⟩ := (opens_render value).exists_cons
  cases fuel with
  | zero =>
    rw [opened, List.length_cons] at enough
    omega
  | succ fuel => exact step fuel rest enough ends

/-- An array that is not empty opens with its first item. -/
theorem opens_itemsChars (item : JsonValue) (others : List JsonValue) :
    Opens (itemsChars (item :: others)) where
  exists_cons := by
    obtain ⟨c, more, opened, ink, inside⟩ := (opens_render item).exists_cons
    cases others with
    | nil => exact ⟨c, more, by simp [itemsChars, Text.joinChars, opened], ink, inside⟩
    | cons next others =>
      exact ⟨c, _, by simp [itemsChars, Text.joinChars, opened]; rfl, ink, inside⟩

/-- An array reads back if its items do. -/
theorem readsBack_array {items : List JsonValue} (readBack : ∀ item ∈ items, item.ReadsBack) :
    ReadsBack (.array items) := by
  refine .of_step fun fuel rest enough ends => ?_
  rw [toList_render_array, List.length_cons, List.length_append, List.length_singleton] at enough
  rw [toList_render_array, List.cons_append, List.append_assoc, List.singleton_append, value?,
    skipBlanks_cons (by decide), reread, rereadItems_eq]
  cases items with
  | nil => rfl
  | cons item others =>
    have read := @items?_itemsChars rest fuel _ (List.cons_ne_nil item others) readBack (by omega)
    obtain ⟨c, more, opened, ink, inside⟩ := (opens_itemsChars item others).exists_cons
    rw [opened, List.cons_append] at read ⊢
    simp only [skipBlanks_cons ink]
    split
    · next shape => exact absurd (List.head_eq_of_cons_eq shape) inside
    · rw [read]
      rfl

/-- An object reads back if its members do. -/
theorem readsBack_object {members : List (String × JsonValue)}
    (readBack : ∀ member ∈ members, member.2.ReadsBack) : ReadsBack (.object members) := by
  refine .of_step fun fuel rest enough ends => ?_
  rw [toList_render_object, List.length_cons, List.length_append, List.length_singleton] at enough
  rw [toList_render_object, List.cons_append, List.append_assoc, List.singleton_append, value?,
    skipBlanks_cons (by decide), reread, rereadMembers_eq]
  cases members with
  | nil => rfl
  | cons member others =>
    have read := @members?_membersChars rest fuel _ (List.cons_ne_nil member others) readBack
      (by omega)
    have opened : ∃ more, membersChars (member :: others) = '"' :: more := by
      cases others <;> exact ⟨_, by simp [membersChars, Text.joinChars, toList_quoted]; rfl⟩
    obtain ⟨more, opened⟩ := opened
    rw [opened, List.cons_append] at read ⊢
    simp only [skipBlanks_cons (show isBlank '"' = false by decide)]
    exact congrArg (Option.map fun read => (JsonValue.object read.1, read.2)) read

/-- Every value is read back from the start of a text. -/
theorem readsBack (value : JsonValue) : value.ReadsBack := by
  induction value using induction_on_parts with
  | null => exact .of_step fun _ _ _ _ => rfl
  | boolean value => exact .of_step fun _ _ _ _ => by cases value <;> rfl
  | integer value => exact .of_step fun _ _ _ ends => value?_number (isNumber_integer value) ends
  | real value =>
    obtain ⟨number, isNumber⟩ := exists_isNumber_real value
    exact .of_step fun _ _ _ ends => value?_number isNumber ends
  | text value =>
    refine .of_step fun fuel rest _ _ => ?_
    rw [render, toList_quoted, List.cons_append, List.append_assoc, List.singleton_append, value?,
      skipBlanks_cons (by decide)]
    simp only [quotedFrom?_quoted, Option.map_some, String.ofList_toList]
    rfl
  | array items inductionHypothesis => exact readsBack_array inductionHypothesis
  | object members inductionHypothesis =>
    exact readsBack_object fun member inside => inductionHypothesis member.1 member.2 inside

/-- The written form of a value is read as what comes back of it. -/
theorem parse?_render (value : JsonValue) : parse? value.render = some value.reread := by
  have read := readsBack value (2 * value.render.toList.length + 2) [] (by omega)
    (by simp [EndsNumber])
  rw [List.append_nil] at read
  rw [parse?, read]
  rfl

end SourceAtlas.JsonValue

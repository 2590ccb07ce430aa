import SourceAtlas.Symbol.Usage

/-!
# Occurrences on a line

The scan of a line passes over the characters of a match, also of one that it
does not report. It still finds every place where a name stands as a whole
identifier: the character before such a place is no identifier character, while
inside of a match every character is one. The places come from left to right,
and scanning the bytes of the line, with slices at byte offsets, gives the same
ones.
-/

namespace SourceAtlas.Usage

variable {name done behind text : List Char} {position skip : Nat} {c : Char}

/-- No identifier character touches what stands between two stretches of a line. -/
structure Untouched (before behind : List Char) : Prop where
  left : ∀ c ∈ before.getLast?, isIdentifierChar c = false
  right : ∀ c ∈ behind.head?, isIdentifierChar c = false

/-- A name stands at a position of a line as a whole identifier, with the given text behind it.
Positions count characters from zero. -/
def StandsAt (name line : List Char) (position : Nat) (behind : List Char) : Prop :=
  ∃ before, line = before ++ name ++ behind ∧ position = before.length ∧ Untouched before behind

/-! ## Scanning characters -/

/-- The same for the part of a line that is left when the part before it is done. -/
def StandsAhead (name done text : List Char) (position : Nat) (behind : List Char) : Prop :=
  ∃ ahead, text = ahead ++ name ++ behind ∧ position = done.length + ahead.length ∧
    Untouched (done ++ ahead) behind

/-- The characters that a scan passes over are identifier characters, and so is the one before
them. -/
def Masked (done : List Char) (skip : Nat) (text : List Char) : Prop :=
  0 < skip → (∃ c, done.getLast? = some c ∧ isIdentifierChar c = true) ∧
    ∀ c ∈ text.take (skip - 1), isIdentifierChar c = true

/-- The test of both neighbors tells whether an occurrence stands by itself. -/
theorem touched_eq_false_iff :
    ((done.getLast?.map isIdentifierChar).getD false || headIs isIdentifierChar behind) = false ↔
      Untouched done behind := by
  have left : (done.getLast?.map isIdentifierChar).getD false = false ↔
      ∀ c ∈ done.getLast?, isIdentifierChar c = false := by
    cases done.getLast? <;> simp
  have right : headIs isIdentifierChar behind = false ↔
      ∀ c ∈ behind.head?, isIdentifierChar c = false := by
    cases behind <;> simp [headIs]
  rw [Bool.or_eq_false_iff, left, right]
  exact ⟨fun both => ⟨both.1, both.2⟩, fun clear => ⟨clear.left, clear.right⟩⟩

instance (before behind : List Char) : Decidable (Untouched before behind) :=
  decidable_of_iff _ touched_eq_false_iff

/-- A name stands at the next character or behind it. -/
theorem standsAhead_cons :
    StandsAhead name done (c :: text) position behind ↔
      (c :: text = name ++ behind ∧ position = done.length ∧ Untouched done behind) ∨
        StandsAhead name (done ++ [c]) text position behind := by
  constructor
  · rintro ⟨ahead, split, place, clear⟩
    cases ahead with
    | nil => exact .inl ⟨split, place, by simpa using clear⟩
    | cons d ahead =>
      rw [List.cons_append, List.cons_append, List.cons.injEq] at split
      obtain ⟨rfl, split⟩ := split
      refine .inr ⟨ahead, split, ?_, by simpa using clear⟩
      simp only [place, List.length_cons, List.length_append, List.length_nil]
      omega
  · rintro (⟨split, place, clear⟩ | ⟨ahead, split, place, clear⟩)
    · exact ⟨[], split, place, by simpa using clear⟩
    · refine ⟨c :: ahead, by simp [split], ?_, by simpa using clear⟩
      simp only [place, List.length_cons, List.length_append, List.length_nil]
      omega

/-- Passing over a character leaves the rest masked. -/
theorem Masked.next (masked : Masked done (skip + 1) (c :: text)) :
    Masked (done ++ [c]) skip text := by
  intro more
  obtain ⟨-, inside⟩ := masked (Nat.succ_pos skip)
  obtain ⟨skip, rfl⟩ := Nat.exists_eq_succ_of_ne_zero (Nat.ne_of_gt more)
  refine ⟨⟨c, List.getLast?_concat, inside c (by simp)⟩, fun d member => ?_⟩
  exact inside d (List.mem_cons_of_mem c (by simpa using member))

/-- Nothing stands as a whole identifier at a character that is passed over. -/
theorem Masked.touched (masked : Masked done (skip + 1) text) : ¬Untouched done behind := by
  intro clear
  obtain ⟨⟨c, last, identifier⟩, -⟩ := masked (Nat.succ_pos skip)
  rw [clear.left c last] at identifier
  cases identifier

/-- The rest of a match is masked behind its first character. -/
theorem masked_of_match {first : Char} {rest : List Char}
    (word : ∀ c ∈ first :: rest, isIdentifierChar c = true) (done behind : List Char) :
    Masked (done ++ [first]) rest.length (rest ++ behind) := by
  intro _
  refine ⟨⟨first, List.getLast?_concat, word first (.head _)⟩, fun c member => ?_⟩
  rw [List.take_append_of_le_length (Nat.sub_le _ _)] at member
  exact word c (.tail _ (List.mem_of_mem_take member))

/-- At a match the scan reports the place if nothing touches it, and goes on behind the match. -/
theorem occurrencesFrom_of_match {after : List Char} (split : name ++ after = c :: text) :
    occurrencesFrom name done.length done.getLast? 0 (c :: text) =
      (if Untouched done after then [(done.length, after)] else []) ++
        occurrencesFrom name (done.length + 1) (some c) (name.length - 1) text := by
  have here : name.isPrefixOf (c :: text) = true := List.isPrefixOf_iff_prefix.mpr ⟨after, split⟩
  have dropped : (c :: text).drop name.length = after := by rw [← split, List.drop_left]
  rw [occurrencesFrom, if_pos here, dropped]
  by_cases clear : Untouched done after
  · simp only [touched_eq_false_iff.mpr clear, if_pos clear]
    rfl
  · have touched := mt touched_eq_false_iff.mp clear
    rw [Bool.not_eq_false] at touched
    simp only [touched, if_neg clear]
    rfl

/-- The scan of what is left of a line finds the places there at which the name stands. -/
theorem mem_occurrencesFrom_iff (named : name ≠ [])
    (word : ∀ c ∈ name, isIdentifierChar c = true) (masked : Masked done skip text) :
    (position, behind) ∈ occurrencesFrom name done.length done.getLast? skip text ↔
      StandsAhead name done text position behind := by
  induction text generalizing done skip with
  | nil =>
    have vacant : ¬StandsAhead name done [] position behind := by
      rintro ⟨ahead, split, -⟩
      simp [named] at split
    simp [occurrencesFrom, vacant]
  | cons c rest inductionHypothesis =>
    have next : ∀ {skip}, Masked (done ++ [c]) skip rest →
        ((position, behind) ∈ occurrencesFrom name (done.length + 1) (some c) skip rest ↔
          StandsAhead name (done ++ [c]) rest position behind) := by
      intro skip masked
      have found := inductionHypothesis masked
      rwa [List.getLast?_concat, List.length_append, List.length_singleton] at found
    rw [standsAhead_cons]
    cases skip with
    | succ skip =>
      have passed : ¬Untouched done behind := masked.touched
      rw [occurrencesFrom, next masked.next]
      simp [passed]
    | zero =>
      by_cases here : name <+: c :: rest
      · obtain ⟨after, split⟩ := here
        have sameBehind : c :: rest = name ++ behind ↔ behind = after := by
          rw [← split, List.append_cancel_left_eq, eq_comm]
        have masked : Masked (done ++ [c]) (name.length - 1) rest := by
          cases name with
          | nil => exact absurd rfl named
          | cons first letters =>
            rw [List.cons_append, List.cons.injEq] at split
            obtain ⟨rfl, rfl⟩ := split
            exact masked_of_match word done after
        rw [occurrencesFrom_of_match split, List.mem_append, next masked, sameBehind]
        refine or_congr_left ?_
        by_cases clear : Untouched done after
        · rw [if_pos clear, List.mem_singleton, Prod.mk.injEq]
          exact ⟨fun both => ⟨both.2, both.1, both.2 ▸ clear⟩, fun all => ⟨all.2.1, all.1⟩⟩
        · rw [if_neg clear]
          refine iff_of_false List.not_mem_nil ?_
          rintro ⟨same, -, cleared⟩
          exact clear (same ▸ cleared)
      · have elsewhere : ¬c :: rest = name ++ behind := fun split => here ⟨behind, split.symm⟩
        rw [occurrencesFrom, if_neg (mt List.isPrefixOf_iff_prefix.mp here),
          next fun more => absurd more (Nat.lt_irrefl 0)]
        simp [elsewhere]

/-- The occurrences found on a line are the places at which the name stands as a whole
identifier. -/
theorem mem_occurrences_iff {name line : String} (named : name ≠ "")
    (word : ∀ c ∈ name.toList, isIdentifierChar c = true) :
    (position, behind) ∈ occurrences name line ↔
      StandsAt name.toList line.toList position behind := by
  have unmasked : Masked [] 0 line.toList := fun more => absurd more (Nat.lt_irrefl 0)
  have found : (position, behind) ∈ occurrencesFrom name.toList 0 none 0 line.toList ↔
      StandsAhead name.toList [] line.toList position behind :=
    mem_occurrencesFrom_iff (by simpa using named) word unmasked
  simpa [StandsAhead, StandsAt, occurrences] using found

/-- The scan goes from left to right. -/
theorem ordered_occurrencesFrom (name : List Char) (position : Nat) (previous : Option Char)
    (skip : Nat) (text : List Char) :
    (∀ found ∈ occurrencesFrom name position previous skip text, position ≤ found.1) ∧
      (occurrencesFrom name position previous skip text).Pairwise fun first second =>
        first.1 < second.1 := by
  fun_induction occurrencesFrom name position previous skip text with
  | case1 => simp
  | case2 position previous skip c rest inductionHypothesis =>
    exact ⟨fun found member => Nat.le_of_lt (inductionHypothesis.1 found member),
      inductionHypothesis.2⟩
  | case3 position previous c rest here after later touched inductionHypothesis =>
    exact ⟨fun found member => Nat.le_of_lt (inductionHypothesis.1 found member),
      inductionHypothesis.2⟩
  | case4 position previous c rest here after later clear inductionHypothesis =>
    refine ⟨fun found member => ?_, .cons inductionHypothesis.1 inductionHypothesis.2⟩
    cases member with
    | head => exact Nat.le_refl position
    | tail _ member => exact Nat.le_of_lt (inductionHypothesis.1 found member)
  | case5 position previous c rest elsewhere inductionHypothesis =>
    exact ⟨fun found member => Nat.le_of_lt (inductionHypothesis.1 found member),
      inductionHypothesis.2⟩

/-- Occurrences come in strictly rising positions. -/
theorem ordered_occurrences (name line : String) :
    (occurrences name line).Pairwise fun first second => first.1 < second.1 :=
  (ordered_occurrencesFrom name.toList 0 none 0 line.toList).2

/-! ## Scanning bytes -/

/-- The number of bytes of a text. -/
def byteLength (chars : List Char) : Nat := (String.ofList chars).utf8ByteSize

/-- No characters take no bytes. -/
theorem byteLength_nil : byteLength [] = 0 := rfl

/-- Two texts take the bytes of both. -/
theorem byteLength_append (first second : List Char) :
    byteLength (first ++ second) = byteLength first + byteLength second := by
  rw [byteLength, String.ofList_append, String.utf8ByteSize_append]
  rfl

/-- A character takes its own bytes. -/
theorem byteLength_singleton (c : Char) : byteLength [c] = c.utf8Size :=
  String.utf8ByteSize_singleton

/-- The parts of a text before and behind a byte offset. There are none when the offset lies inside
of a character or beyond the end. -/
def cutAtByte? : Nat → List Char → Option (List Char × List Char)
  | 0, chars => some ([], chars)
  | _ + 1, [] => none
  | offset + 1, c :: rest =>
    if c.utf8Size ≤ offset + 1 then
      (cutAtByte? (offset + 1 - c.utf8Size) rest).map fun parts => (c :: parts.1, parts.2)
    else none

/-- The end of every initial part of a text is a byte offset at which it can be cut. -/
theorem cutAtByte?_append (before behind : List Char) :
    cutAtByte? (byteLength before) (before ++ behind) = some (before, behind) := by
  induction before with
  | nil => rw [byteLength_nil, List.nil_append, cutAtByte?]
  | cons c rest inductionHypothesis =>
    have length : byteLength (c :: rest) = c.utf8Size + byteLength rest := by
      rw [← List.singleton_append, byteLength_append, byteLength_singleton]
    obtain ⟨offset, positive⟩ := Nat.exists_eq_add_of_lt c.utf8Size_pos
    have shape : byteLength (c :: rest) = offset + byteLength rest + 1 := by omega
    have left : offset + byteLength rest + 1 - c.utf8Size = byteLength rest := by omega
    rw [List.cons_append, shape, cutAtByte?, if_pos (by omega), left, inductionHypothesis]
    rfl

/-- The byte offsets of the non-overlapping matches of a name. `skip` counts the characters that
belong to a match already found. -/
def matchOffsets (name : List Char) : Nat → Nat → List Char → List Nat
  | _, _, [] => []
  | offset, skip + 1, c :: rest => matchOffsets name (offset + c.utf8Size) skip rest
  | offset, 0, c :: rest =>
    if name.isPrefixOf (c :: rest) then
      offset :: matchOffsets name (offset + c.utf8Size) (name.length - 1) rest
    else matchOffsets name (offset + c.utf8Size) 0 rest

/-- The text before a match that starts at a byte offset and the text behind it. -/
def slicesAround? (name line : List Char) (offset : Nat) : Option (List Char × List Char) := do
  let (before, _) ← cutAtByte? offset line
  let (_, behind) ← cutAtByte? (offset + byteLength name) line
  return (before, behind)

/-- The occurrences of a name as they are found in the bytes of a line, by slices before and behind
each match. There are none if a slice is taken off a character boundary. -/
def slicedOccurrences? (name line : String) : Option (List (Nat × List Char)) := do
  let slices ← (matchOffsets name.toList 0 0 line.toList).mapM (slicesAround? name.toList line.toList)
  return (slices.filter fun (before, behind) => Untouched before behind).map
    fun (before, behind) => (before.length, behind)

/-- A slice at a match has what stands before and behind it. -/
theorem slicesAround?_match (done name after : List Char) :
    slicesAround? name (done ++ (name ++ after)) (byteLength done) = some (done, after) := by
  have behind := cutAtByte?_append (done ++ name) after
  rw [List.append_assoc, byteLength_append] at behind
  rw [slicesAround?, cutAtByte?_append, behind]
  rfl

/-- Every match in what is left of a line can be sliced, and the slices that nothing touches give
what the scan of characters finds. -/
theorem exists_slices (name done : List Char) (skip : Nat) (text : List Char) :
    ∃ slices,
      (matchOffsets name (byteLength done) skip text).mapM (slicesAround? name (done ++ text)) =
        some slices ∧
      (slices.filter fun (before, behind) => Untouched before behind).map
          (fun (before, behind) => (before.length, behind)) =
        occurrencesFrom name done.length done.getLast? skip text := by
  induction text generalizing done skip with
  | nil => exact ⟨[], by simp [matchOffsets], by simp [occurrencesFrom]⟩
  | cons c rest inductionHypothesis =>
    have next : ∀ skip, ∃ slices,
        (matchOffsets name (byteLength done + c.utf8Size) skip rest).mapM
            (slicesAround? name (done ++ c :: rest)) = some slices ∧
          (slices.filter fun (before, behind) => Untouched before behind).map
              (fun (before, behind) => (before.length, behind)) =
            occurrencesFrom name (done.length + 1) (some c) skip rest := by
      intro skip
      have later := inductionHypothesis (done ++ [c]) skip
      rwa [byteLength_append, byteLength_singleton, List.append_assoc, List.singleton_append,
        List.getLast?_concat, List.length_append, List.length_singleton] at later
    cases skip with
    | succ skip => exact next skip
    | zero =>
      by_cases here : name <+: c :: rest
      · obtain ⟨after, split⟩ := here
        obtain ⟨slices, sliced, found⟩ := next (name.length - 1)
        have first := slicesAround?_match done name after
        rw [split] at first
        refine ⟨(done, after) :: slices, ?_, ?_⟩
        · rw [matchOffsets, if_pos (List.isPrefixOf_iff_prefix.mpr ⟨after, split⟩), List.mapM_cons,
            first, sliced]
          rfl
        · rw [occurrencesFrom_of_match split, ← found, List.filter_cons]
          by_cases clear : Untouched done after <;> simp [clear]
      · have elsewhere := mt List.isPrefixOf_iff_prefix.mp here
        rw [matchOffsets, if_neg elsewhere, occurrencesFrom, if_neg elsewhere]
        exact next 0

/-- No slice of a line is taken off a character boundary, and the bytes of the line give the same
occurrences as its characters. -/
theorem slicedOccurrences?_eq (name line : String) :
    slicedOccurrences? name line = some (occurrences name line) := by
  obtain ⟨slices, sliced, found⟩ := exists_slices name.toList [] 0 line.toList
  rw [byteLength_nil, List.nil_append] at sliced
  rw [slicedOccurrences?, sliced]
  exact congrArg some found

end SourceAtlas.Usage

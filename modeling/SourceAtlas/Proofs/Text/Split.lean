import Mathlib.Data.List.Infix
import SourceAtlas.Text.CharClass

/-!
# Texts cut and joined

Cutting a text at a character and joining the runs again are inverse to each
other. A pattern is found where it first occurs, and trimming takes away the
white space at both ends.
-/

namespace SourceAtlas.Text

variable {separator first : Char} {pattern text before after : List Char}

/-! ## Runs between separators -/

/-- Splitting gives at least one run. -/
theorem splitChars_ne_nil (separator : Char) (text : List Char) :
    splitChars separator text ≠ [] := by
  cases text with
  | nil => simp [splitChars]
  | cons c rest =>
    rw [splitChars]
    split
    · simp
    · split <;> simp

/-- The runs around a separator. -/
theorem splitChars_append (separator : Char) (before after : List Char) :
    splitChars separator (before ++ separator :: after) =
      splitChars separator before ++ splitChars separator after := by
  induction before with
  | nil => simp [splitChars]
  | cons c rest inductionHypothesis =>
    rw [List.cons_append, splitChars, splitChars, inductionHypothesis]
    split
    · rfl
    · cases runs : splitChars separator rest with
      | nil => exact absurd runs (splitChars_ne_nil separator rest)
      | cons run others => rfl

/-- A text without the separator is one run. -/
theorem splitChars_eq_singleton (free : separator ∉ text) : splitChars separator text = [text] := by
  induction text with
  | nil => rfl
  | cons c rest inductionHypothesis =>
    obtain ⟨different, freeRest⟩ := not_or.mp (mt List.mem_cons.mpr free)
    rw [splitChars, if_neg (Ne.symm different), inductionHypothesis freeRest]

/-- Joining the runs gives the text back. -/
theorem joinChars_splitChars (separator : Char) (text : List Char) :
    joinChars [separator] (splitChars separator text) = text := by
  induction text with
  | nil => rfl
  | cons c rest inductionHypothesis =>
    rw [splitChars]
    split
    · next same =>
      cases runs : splitChars separator rest with
      | nil => exact absurd runs (splitChars_ne_nil separator rest)
      | cons run others =>
        rw [runs] at inductionHypothesis
        rw [joinChars, inductionHypothesis, same]
        rfl
    · cases runs : splitChars separator rest with
      | nil => exact absurd runs (splitChars_ne_nil separator rest)
      | cons run others =>
        rw [runs] at inductionHypothesis
        cases others with
        | nil => exact congrArg (c :: ·) inductionHypothesis
        | cons next more => exact congrArg (c :: ·) inductionHypothesis

/-- Runs without the separator are found again. -/
theorem splitChars_joinChars {runs : List (List Char)} (nonempty : runs ≠ [])
    (free : ∀ run ∈ runs, separator ∉ run) :
    splitChars separator (joinChars [separator] runs) = runs := by
  induction runs with
  | nil => exact absurd rfl nonempty
  | cons run others inductionHypothesis =>
    have freeRun := free run (.head _)
    cases others with
    | nil => exact splitChars_eq_singleton freeRun
    | cons next more =>
      rw [joinChars, List.append_assoc, List.singleton_append, splitChars_append,
        splitChars_eq_singleton freeRun,
        inductionHypothesis (by simp) fun run member => free run (.tail _ member)]
      rfl

/-- No run has the separator. -/
theorem not_mem_of_mem_splitChars {run : List Char} (member : run ∈ splitChars separator text) :
    separator ∉ run := by
  induction text generalizing run with
  | nil =>
    rw [splitChars, List.mem_singleton] at member
    simp [member]
  | cons c rest inductionHypothesis =>
    rw [splitChars] at member
    split at member
    · cases member with
      | head => simp
      | tail _ member => exact inductionHypothesis member
    · next different =>
      cases runs : splitChars separator rest with
      | nil => exact absurd runs (splitChars_ne_nil separator rest)
      | cons first others =>
        rw [runs] at member inductionHypothesis
        cases member with
        | head =>
          have freeFirst := inductionHypothesis (.head others)
          simp [freeFirst, Ne.symm different]
        | tail _ member => exact inductionHypothesis (.tail _ member)

/-- Joined runs end with the last one. -/
theorem exists_joinChars_append (separator : List Char) (runs : List (List Char))
    (last : List Char) : ∃ lead, joinChars separator (runs ++ [last]) = lead ++ last := by
  induction runs with
  | nil => exact ⟨[], rfl⟩
  | cons run others inductionHypothesis =>
    obtain ⟨lead, shape⟩ := inductionHypothesis
    cases others with
    | nil => exact ⟨run ++ separator, rfl⟩
    | cons next others =>
      refine ⟨run ++ separator ++ lead, ?_⟩
      rw [List.cons_append, List.cons_append, joinChars, ← List.cons_append, shape,
        List.append_assoc _ lead]

/-- Joined runs with text behind the last one. -/
theorem joinChars_append_last (separator : List Char) (runs : List (List Char))
    (last tail : List Char) :
    joinChars separator (runs ++ [last ++ tail]) =
      joinChars separator (runs ++ [last]) ++ tail := by
  induction runs with
  | nil => rfl
  | cons run others inductionHypothesis =>
    cases others with
    | nil => simp [joinChars]
    | cons next others =>
      rw [List.cons_append, List.cons_append, List.cons_append, List.cons_append, joinChars,
        joinChars, ← List.cons_append, ← List.cons_append, inductionHypothesis]
      simp only [List.append_assoc]

/-- Joined runs with one more run behind them. -/
theorem joinChars_concat (separator : List Char) {runs : List (List Char)} (nonempty : runs ≠ [])
    (last : List Char) :
    joinChars separator (runs ++ [last]) = joinChars separator runs ++ separator ++ last := by
  induction runs with
  | nil => exact absurd rfl nonempty
  | cons run others inductionHypothesis =>
    cases others with
    | nil => rfl
    | cons next others =>
      rw [List.cons_append, List.cons_append, joinChars, joinChars, ← List.cons_append,
        inductionHypothesis (List.cons_ne_nil _ _)]
      simp only [List.append_assoc]

/-- The characters of joined runs, separators aside, are those of the runs. -/
theorem mem_joinChars_iff {c : Char} {runs : List (List Char)} (other : c ≠ separator) :
    c ∈ joinChars [separator] runs ↔ ∃ run ∈ runs, c ∈ run := by
  induction runs with
  | nil => simp [joinChars]
  | cons run rest inductionHypothesis =>
    cases rest with
    | nil => simp [joinChars]
    | cons next rest =>
      rw [joinChars, List.mem_append, List.mem_append, inductionHypothesis]
      simp [other]

/-- Runs with one separator between them become runs with another. -/
theorem flatMap_joinChars {new : List Char} {runs : List (List Char)}
    (free : ∀ run ∈ runs, separator ∉ run) :
    (joinChars [separator] runs).flatMap (fun c => if c = separator then new else [c]) =
      joinChars new runs := by
  have kept : ∀ run ∈ runs, run.flatMap (fun c => if c = separator then new else [c]) = run := by
    intro run listed
    have single : ∀ c ∈ run, (if c = separator then new else [c]) = [c] := by
      intro c member
      refine if_neg ?_
      rintro rfl
      exact free run listed member
    rw [List.flatMap_congr single, List.flatMap_singleton']
  induction runs with
  | nil => rfl
  | cons run rest inductionHypothesis =>
    have first := kept run (.head _)
    have later := inductionHypothesis (fun run listed => free run (.tail _ listed))
      fun run listed => kept run (.tail _ listed)
    cases rest with
    | nil => exact first
    | cons next rest =>
      rw [joinChars, joinChars, List.flatMap_append, List.flatMap_append, first, later]
      simp

/-- Replacing the separator joins the same parts by another one. -/
theorem replaceChar_join {old new : String} {parts : List String}
    (single : old.toList = [separator]) (free : ∀ part ∈ parts, separator ∉ part.toList) :
    replaceChar separator new (join old parts) = join new parts := by
  rw [replaceChar, join, String.toList_ofList, single, flatMap_joinChars (by simpa using free),
    join]

/-- Nothing changes where the character does not occur. -/
theorem replaceChar_of_not_mem {text : String} (free : separator ∉ text.toList) (new : String) :
    replaceChar separator new text = text := by
  have kept : ∀ run ∈ [text.toList], separator ∉ run := by simpa using free
  have replaced := @flatMap_joinChars separator new.toList _ kept
  rw [joinChars, joinChars] at replaced
  rw [replaceChar, replaced, String.ofList_toList]

/-- A character that is replaced by others does not stay. -/
theorem not_mem_replaceChar {new : String} (free : separator ∉ new.toList) (text : String) :
    separator ∉ (replaceChar separator new text).toList := by
  rw [replaceChar, String.toList_ofList, List.mem_flatMap]
  rintro ⟨c, -, member⟩
  split at member
  · exact free member
  · next other => exact other (List.mem_singleton.mp member).symm

/-! ## Repetition -/

/-- One repetition more stands in front. -/
theorem repeated_succ (count : Nat) (text : String) :
    repeated (count + 1) text = text ++ repeated count text := by
  rw [repeated, List.replicate_succ, String.join_cons, repeated]

/-- The characters of a repeated text. -/
theorem toList_repeated (count : Nat) (text : String) :
    (repeated count text).toList = (List.replicate count text.toList).flatten := by
  rw [repeated, String.toList_join, List.flatMap_replicate]

/-! ## The place of a pattern -/

/-- A pattern is looked for behind the characters that it cannot start with. -/
theorem cutChars_append_of_not_mem (free : first ∉ before) (text : List Char) :
    cutChars (first :: pattern) (before ++ text) =
      (cutChars (first :: pattern) text).map fun cut => (before ++ cut.1, cut.2) := by
  induction before with
  | nil => simp
  | cons c before inductionHypothesis =>
    rw [List.mem_cons, not_or] at free
    rw [List.cons_append, cutChars, inductionHypothesis free.2]
    simp [free.1, Function.comp_def]

/-- A text is cut where the pattern first starts. -/
theorem cutChars_append_pattern (free : first ∉ before) (after : List Char) :
    cutChars (first :: pattern) (before ++ (first :: pattern ++ after)) = some (before, after) := by
  have here : cutChars (first :: pattern) (first :: pattern ++ after) = some ([], after) := by
    have leads : (first :: pattern).isPrefixOf (first :: pattern ++ after) = true :=
      List.isPrefixOf_iff_prefix.mpr (List.prefix_append _ _)
    rw [List.cons_append, cutChars, ← List.cons_append, if_pos leads, List.drop_left]
  rw [cutChars_append_of_not_mem free, here]
  simp

/-- A text is what stands before a pattern that is found, the pattern and what stands behind it. -/
theorem eq_append_of_cutChars {pattern : List Char}
    (found : cutChars pattern text = some (before, after)) : text = before ++ pattern ++ after := by
  induction text generalizing before with
  | nil =>
    cases pattern with
    | nil =>
      cases found
      rfl
    | cons c pattern => cases found
  | cons c rest inductionHypothesis =>
    rw [cutChars] at found
    split at found
    next here =>
      obtain ⟨behind, split⟩ := List.isPrefixOf_iff_prefix.mp here
      cases found
      rw [← split, List.drop_left, List.nil_append]
    next =>
      obtain ⟨⟨earlier, later⟩, cut, same⟩ := Option.map_eq_some_iff.mp found
      cases same
      rw [inductionHypothesis cut]
      rfl

/-- A text without the first character of a pattern is not cut. -/
theorem cutChars_eq_none (free : first ∉ text) : cutChars (first :: pattern) text = none := by
  have cut : cutChars (first :: pattern) (text ++ []) = _ := cutChars_append_of_not_mem free []
  simpa [cutChars] using cut

/-- Texts are cut as their characters are. -/
theorem cut_ofList (pattern : String) (text : List Char) :
    cut pattern (String.ofList text) = (cutChars pattern.toList text).map fun parts =>
      (String.ofList parts.1, String.ofList parts.2) := by
  rw [cut, String.toList_ofList]

/-- The first separator cuts a text. -/
theorem cutChars_append (free : separator ∉ before) (after : List Char) :
    cutChars [separator] (before ++ separator :: after) = some (before, after) :=
  cutChars_append_pattern free after

/-- A cut at a separator found: no separator stands before it. -/
theorem cutChars_singleton_eq_some_iff :
    cutChars [separator] text = some (before, after) ↔
      text = before ++ separator :: after ∧ separator ∉ before := by
  constructor
  · intro found
    induction text generalizing before with
    | nil => cases found
    | cons c rest inductionHypothesis =>
      rw [cutChars] at found
      split at found
      next here =>
        cases found
        have same : separator = c := by simpa using here
        exact ⟨by simp [same], by simp⟩
      next elsewhere =>
        obtain ⟨⟨earlier, later⟩, cut, same⟩ := Option.map_eq_some_iff.mp found
        cases same
        obtain ⟨split, free⟩ := inductionHypothesis cut
        have different : separator ≠ c := by simpa using elsewhere
        exact ⟨by rw [split, List.cons_append], by simp [different, free]⟩
  · rintro ⟨rfl, free⟩
    exact cutChars_append free after

/-- The text before and behind the last separator. -/
theorem cutLast_eq_some_iff {separator : Char} {text before after : String} :
    cutLast separator text = some (before, after) ↔
      text.toList = before.toList ++ separator :: after.toList ∧ separator ∉ after.toList := by
  rw [cutLast, Option.map_eq_some_iff]
  constructor
  · rintro ⟨⟨first, second⟩, cut, same⟩
    cases same
    obtain ⟨split, free⟩ := cutChars_singleton_eq_some_iff.mp cut
    have turned := congrArg List.reverse split
    rw [List.reverse_reverse] at turned
    exact ⟨by simp [turned], by simpa using free⟩
  · rintro ⟨split, free⟩
    refine ⟨(after.toList.reverse, before.toList.reverse), ?_, by simp⟩
    exact cutChars_singleton_eq_some_iff.mpr ⟨by simp [split], by simpa using free⟩

/-- A pattern is found exactly when it occurs in the text. -/
theorem isSome_cutChars_iff {pattern text : List Char} :
    (cutChars pattern text).isSome = true ↔ pattern <:+: text := by
  induction text with
  | nil => cases pattern <;> simp [cutChars]
  | cons c rest inductionHypothesis =>
    rw [cutChars, List.infix_cons_iff]
    by_cases here : pattern.isPrefixOf (c :: rest) = true
    · simp [here, List.isPrefixOf_iff_prefix.mp here]
    · have elsewhere : ¬pattern <+: c :: rest := mt List.isPrefixOf_iff_prefix.mpr here
      simp [here, elsewhere, inductionHypothesis]

/-- A text contains a pattern exactly if the pattern is an infix. -/
theorem contains_iff {pattern text : String} :
    contains pattern text = true ↔ pattern.toList <:+: text.toList := isSome_cutChars_iff

/-- A text starts with a lead exactly if something stands behind the lead. -/
theorem startsWith_iff {lead text : String} :
    startsWith lead text = true ↔ ∃ rest, text = lead ++ rest := by
  rw [startsWith, List.isPrefixOf_iff_prefix]
  constructor
  · rintro ⟨rest, split⟩
    exact ⟨String.ofList rest, String.toList_inj.mp (by simp [split])⟩
  · rintro ⟨rest, rfl⟩
    exact ⟨rest.toList, by simp⟩

/-- A text ends with a tail exactly if something stands before the tail. -/
theorem endsWith_iff {tail text : String} :
    endsWith tail text = true ↔ ∃ lead, text = lead ++ tail := by
  rw [endsWith, List.isSuffixOf_iff_suffix]
  constructor
  · rintro ⟨lead, split⟩
    exact ⟨String.ofList lead, String.toList_inj.mp (by simp [split])⟩
  · rintro ⟨lead, rfl⟩
    exact ⟨lead.toList, by simp⟩

/-- What stands behind a lead is the rest of the text. -/
theorem afterLead_eq_some_iff {lead text rest : String} :
    afterLead lead text = some rest ↔ text = lead ++ rest := by
  rw [afterLead, Option.ite_none_right_eq_some, List.isPrefixOf_iff_prefix, Option.some.injEq]
  constructor
  · rintro ⟨⟨chars, split⟩, rfl⟩
    refine String.toList_inj.mp ?_
    rw [← split, String.toList_append, String.toList_ofList, ← String.length_toList,
      List.drop_left]
  · rintro rfl
    refine ⟨⟨rest.toList, by simp⟩, ?_⟩
    rw [String.toList_append, ← String.length_toList, List.drop_left, String.ofList_toList]

/-! ## White space at the ends -/

/-- White space before a text is trimmed, and nothing of a text that neither starts nor ends with
white space. -/
theorem trim_append {lead body : List Char} (blank : ∀ c ∈ lead, isBlank c = true)
    (starts : ∀ c ∈ body.head?, isBlank c = false) (ends : ∀ c ∈ body.getLast?, isBlank c = false) :
    trim (String.ofList (lead ++ body)) = String.ofList body := by
  have held : ∀ {chars : List Char}, (∀ c ∈ chars.head?, isBlank c = false) →
      chars.dropWhile isBlank = chars := by
    intro chars first
    cases chars with
    | nil => rfl
    | cons c rest => exact List.dropWhile_cons_of_neg (by simp [first c rfl])
  rw [trim, trimMatches, String.toList_ofList, List.dropWhile_append_of_pos blank, held starts,
    held (by simpa using ends), List.reverse_reverse]

/-- Blank space before a text without blanks is trimmed. -/
theorem trim_append_of_not_blank {lead body : List Char} (blank : ∀ c ∈ lead, isBlank c = true)
    (solid : ∀ c ∈ body, isBlank c = false) :
    trim (String.ofList (lead ++ body)) = String.ofList body :=
  trim_append blank (fun c first => solid c (List.mem_of_mem_head? first))
    fun c last => solid c (List.mem_of_getLast? last)

/-- There is nothing to trim from a text without blanks. -/
theorem trim_of_not_blank {body : List Char} (solid : ∀ c ∈ body, isBlank c = false) :
    trim (String.ofList body) = String.ofList body := by
  have trimmed := trim_append_of_not_blank (List.forall_mem_nil _) solid
  rwa [List.nil_append] at trimmed

end SourceAtlas.Text

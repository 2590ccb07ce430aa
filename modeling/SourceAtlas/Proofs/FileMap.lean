import Mathlib.Data.List.Nodup
import SourceAtlas.Graph.Basic

/-!
# Maps filled entry by entry

Of several entries for one key the last is kept (`lastFor`). The look-up in a
map that was filled or emptied by a fold follows from it.
-/

namespace SourceAtlas

variable {α β : Type}

/-- The last entry for a key. -/
def lastFor (keyOf : α → String) (entries : List α) (key : String) : Option α :=
  entries.reverse.find? fun entry => keyOf entry = key

variable {keyOf : α → String} {entries : List α} {entry : α} {key : String}

/-- An empty list holds nothing for any key. -/
@[simp]
theorem lastFor_nil (keyOf : α → String) (key : String) : lastFor keyOf [] key = none := rfl

/-- What the rest of a list holds for a key goes before the first entry. -/
theorem lastFor_cons (keyOf : α → String) (first : α) (rest : List α) (key : String) :
    lastFor keyOf (first :: rest) key =
      (lastFor keyOf rest key).or (if keyOf first = key then some first else none) := by
  rw [lastFor, List.reverse_cons, List.find?_append]
  by_cases same : keyOf first = key <;> simp [lastFor, same]

/-- The second list goes before the first one. -/
theorem lastFor_append (keyOf : α → String) (first second : List α) (key : String) :
    lastFor keyOf (first ++ second) key =
      (lastFor keyOf second key).or (lastFor keyOf first key) := by
  rw [lastFor, List.reverse_append, List.find?_append]
  rfl

/-- Entries are kept or left out by their keys. -/
theorem lastFor_filter (keyOf : α → String) (keep : String → Bool) (entries : List α)
    (key : String) :
    lastFor keyOf (entries.filter fun entry => keep (keyOf entry)) key =
      if keep key then lastFor keyOf entries key else none := by
  induction entries with
  | nil => simp
  | cons first rest inductionHypothesis =>
    by_cases same : keyOf first = key
    · subst same
      by_cases kept : keep (keyOf first) <;> simp [kept, lastFor_cons, inductionHypothesis]
    · by_cases kept : keep (keyOf first) <;>
        simp [kept, lastFor_cons, inductionHypothesis, same]

/-- Looking up in a mapped list maps what the list holds under the mapped keys. -/
theorem lastFor_map (mapping : β → α) (entries : List β) (key : String) :
    lastFor keyOf (entries.map mapping) key =
      (lastFor (keyOf ∘ mapping) entries key).map mapping := by
  rw [lastFor, ← List.map_reverse, List.find?_map]
  rfl

/-- Only the keys of the listed entries matter. -/
theorem lastFor_congr {keyOf' : α → String} (same : ∀ entry ∈ entries, keyOf entry = keyOf' entry)
    (key : String) : lastFor keyOf entries key = lastFor keyOf' entries key := by
  induction entries with
  | nil => rfl
  | cons first rest inductionHypothesis =>
    rw [lastFor_cons, lastFor_cons, same first (.head _),
      inductionHypothesis fun entry member => same entry (.tail _ member)]

/-- Something is found exactly under the keys of the entries. -/
theorem isSome_lastFor : (lastFor keyOf entries key).isSome ↔ key ∈ entries.map keyOf := by
  simp [lastFor]

/-- Where entries with one key are equal, the entry for a key is any that has it. -/
theorem lastFor_eq_some_iff
    (unique : ∀ first ∈ entries, ∀ second ∈ entries, keyOf first = keyOf second → first = second) :
    lastFor keyOf entries key = some entry ↔ entry ∈ entries ∧ keyOf entry = key := by
  constructor
  · intro found
    refine ⟨List.mem_reverse.mp (List.mem_of_find?_eq_some found), ?_⟩
    simpa using List.find?_some found
  · rintro ⟨member, same⟩
    have some : (lastFor keyOf entries key).isSome :=
      isSome_lastFor.mpr (same ▸ List.mem_map_of_mem member)
    obtain ⟨other, found⟩ := Option.isSome_iff_exists.mp some
    have otherMember := List.mem_reverse.mp (List.mem_of_find?_eq_some found)
    have otherKey : keyOf other = key := by simpa using List.find?_some found
    rw [found, unique other otherMember entry member (otherKey.trans same.symm)]

/-- What is found in a store after keys were dropped one by one, whatever drops a single one. -/
theorem lookup_foldl_drop {σ : Type} (lookup : σ → String → Option β) {drop : σ → String → σ}
    (dropped : ∀ store key other,
      lookup (drop store key) other = if key = other then none else lookup store other)
    (keys : List String) (store : σ) (key : String) :
    lookup (keys.foldl drop store) key = if key ∈ keys then none else lookup store key := by
  induction keys generalizing store with
  | nil => simp
  | cons first rest inductionHypothesis =>
    rw [List.foldl_cons, inductionHypothesis, dropped]
    by_cases same : first = key
    · simp [same]
    · simp [same, Ne.symm same]

namespace FileMap

/-- The keys of a map rise. -/
theorem ordered_keys (map : FileMap β) : map.keys.Pairwise (· < ·) := by
  refine Std.ExtTreeMap.ordered_keys.imp fun {first second} below => ?_
  exact compareOfLessAndEq_eq_lt.mp below

/-- The values of a map are those of its entries. -/
theorem values_eq (map : FileMap β) : map.values = map.toList.map Prod.snd := by
  -- Both lists are folds over the same tree below the quotient.
  obtain ⟨⟨⟨tree⟩⟩⟩ := map
  have values : tree.inner.values = tree.inner.toListModel.map Sigma.snd :=
    Std.DTreeMap.Internal.Impl.values_eq_map_snd
  have entries : Std.DTreeMap.Internal.Impl.Const.toList tree.inner =
      tree.inner.toListModel.map fun entry => (entry.1, entry.2) :=
    Std.DTreeMap.Internal.Impl.Const.toList_eq_toListModel_map
  change tree.inner.values = (Std.DTreeMap.Internal.Impl.Const.toList tree.inner).map Prod.snd
  rw [values, entries, List.map_map]
  rfl

/-- The values of a map are those that some key looks up. -/
theorem mem_values_iff {map : FileMap β} {value : β} :
    value ∈ map.values ↔ ∃ key : String, map[key]? = some value := by
  simp only [values_eq, List.mem_map, Prod.exists, Std.ExtTreeMap.mem_toList_iff_getElem?_eq_some]
  simp

/-! ### Values that name their keys -/

section Keyed

variable {map : FileMap β} {keyOf : β → String}
  (keyed : ∀ (key : String) (value : β), map[key]? = some value → keyOf value = key)

include keyed

/-- Where every value is stored under its own key, the values have the keys of the map, in order. -/
theorem map_values_eq_keys : map.values.map keyOf = map.keys := by
  rw [values_eq, List.map_map, ← Std.ExtTreeMap.map_fst_toList_eq_keys]
  refine List.map_congr_left fun entry member => ?_
  exact keyed entry.1 entry.2 (Std.ExtTreeMap.mem_toList_iff_getElem?_eq_some.mp member)

/-- Where every value is stored under its own key, no value is listed twice. -/
theorem nodup_values : map.values.Nodup := by
  refine List.Nodup.of_map keyOf ?_
  rw [map_values_eq_keys keyed]
  exact Std.ExtTreeMap.nodup_keys

/-- A value is listed exactly if its own key looks it up. -/
theorem mem_values_iff_of_keyed {value : β} :
    value ∈ map.values ↔ map[keyOf value]? = some value := by
  rw [mem_values_iff]
  constructor
  · rintro ⟨key, stored⟩
    rwa [keyed key value stored]
  · exact fun stored => ⟨keyOf value, stored⟩

end Keyed

/-- A property of all values is a property of all answered look-ups. -/
theorem forall_mem_values_iff {map : FileMap β} {holds : β → Prop} :
    (∀ value ∈ map.values, holds value) ↔
      ∀ {key : String} {value : β}, map[key]? = some value → holds value := by
  constructor
  · intro each key value stored
    exact each value (mem_values_iff.mpr ⟨key, stored⟩)
  · intro each value listed
    obtain ⟨key, stored⟩ := mem_values_iff.mp listed
    exact each stored

/-- After entries were put in one by one, the last one for a key is found. -/
theorem getElem?_foldl_insert (keyOf : α → String) (valueOf : α → β) (entries : List α)
    (map : FileMap β) (key : String) :
    (entries.foldl (fun (map : FileMap β) entry => map.insert (keyOf entry) (valueOf entry))
        map)[key]? =
      ((lastFor keyOf entries key).map valueOf).or map[key]? := by
  induction entries generalizing map with
  | nil => rfl
  | cons first rest inductionHypothesis =>
    rw [List.foldl_cons, inductionHypothesis, lastFor_cons, Std.ExtTreeMap.getElem?_insert]
    cases lastFor keyOf rest key with
    | some later => rfl
    | none => by_cases same : keyOf first = key <;> simp [same]

/-- Entries with different keys that are all new add up. -/
theorem size_foldl_insert (keyOf : α → String) (valueOf : α → β) {entries : List α}
    (distinct : (entries.map keyOf).Nodup) (map : FileMap β)
    (fresh : ∀ entry ∈ entries, keyOf entry ∉ map) :
    (entries.foldl (fun (map : FileMap β) entry => map.insert (keyOf entry) (valueOf entry))
        map).size = map.size + entries.length := by
  induction entries generalizing map with
  | nil => rfl
  | cons first rest inductionHypothesis =>
    rw [List.map_cons, List.nodup_cons] at distinct
    obtain ⟨apart, distinct⟩ := distinct
    have freshLater : ∀ entry ∈ rest, keyOf entry ∉ map.insert (keyOf first) (valueOf first) := by
      intro entry member inserted
      rcases Std.ExtTreeMap.mem_insert.mp inserted with same | before
      · rw [Std.LawfulEqCmp.eq_of_compare same] at apart
        exact apart (List.mem_map_of_mem member)
      · exact fresh entry (.tail _ member) before
    have freshFirst : ¬map.contains (keyOf first) = true :=
      mt Std.ExtTreeMap.contains_iff_mem.mp (fresh first (.head _))
    rw [List.foldl_cons, inductionHypothesis distinct _ freshLater, Std.ExtTreeMap.size_insert,
      if_neg freshFirst, List.length_cons, Nat.add_right_comm, Nat.add_assoc]

/-- A map of keyed entries holds the last entry for a key. -/
theorem getElem?_ofList (keyOf : β → String) (entries : List β) (key : String) :
    (Std.ExtTreeMap.ofList (entries.map fun entry => (keyOf entry, entry)) compare)[key]? =
      lastFor keyOf entries key := by
  have inserted : ∀ map : FileMap β,
      (map.insertMany (entries.map fun entry => (keyOf entry, entry)))[key]? =
        (lastFor keyOf entries key).or map[key]? := by
    induction entries with
    | nil => simp
    | cons first rest inductionHypothesis =>
      intro map
      rw [List.map_cons, Std.ExtTreeMap.insertMany_cons, inductionHypothesis, lastFor_cons,
        Std.ExtTreeMap.getElem?_insert]
      cases lastFor keyOf rest key with
      | some later => rfl
      | none => by_cases same : keyOf first = key <;> simp [same]
  rw [Std.ExtTreeMap.ofList_eq_insertMany_empty, inserted]
  simp

/-- Erasing a list of keys takes away those keys and leaves every other one. -/
theorem getElem?_foldl_erase (keys : List String) (map : FileMap β) (key : String) :
    (keys.foldl (fun (map : FileMap β) key => map.erase key) map)[key]? =
      if key ∈ keys then none else map[key]? := by
  refine lookup_foldl_drop (fun (map : FileMap β) key => map[key]?) ?_ keys map key
  intro map key other
  rw [Std.ExtTreeMap.getElem?_erase]
  simp

end FileMap

/-- The members of a set are listed in rising order. -/
theorem FileSet.ordered_toList (set : FileSet) : set.toList.Pairwise (· < ·) := by
  refine Std.ExtTreeSet.ordered_toList.imp fun {first second} below => ?_
  exact compareOfLessAndEq_eq_lt.mp below

end SourceAtlas

import Mathlib.Tactic.MkIffOfInductiveProp
import SourceAtlas.Index.Format
import SourceAtlas.Proofs.FileMap
import SourceAtlas.Proofs.Json.RoundTrip

/-!
# Reading back saved indexes

Every part of a saved index is read back from its written form, as long as its
integers are machine words and its floating-point numbers are read back. The
members of an object are found under their names in the order in which a
reader asks for them.
-/

namespace SourceAtlas

open JsonValue

/-- An unsigned word of 64 bits. -/
def IsWord (value : Nat) : Prop := value < Word64.count

/-- A signed word of 64 bits. -/
def IsSignedWord (value : Int) : Prop := -(Word64.half : Int) ≤ value ∧ value < Word64.half

instance (value : Nat) : Decidable (IsWord value) :=
  inferInstanceAs (Decidable (value < Word64.count))

instance (value : Int) : Decidable (IsSignedWord value) :=
  inferInstanceAs (Decidable (-(Word64.half : Int) ≤ value ∧ value < Word64.half))

/-- A part is decoded from what is read of its written form. -/
abbrev Restores {α : Type} (encode : α → JsonValue) (decode : JsonValue → Option α) (part : α) :
    Prop :=
  decode (encode part).reread = some part

variable {α : Type} {encode : α → JsonValue} {decode : JsonValue → Option α}

/-- A part is decoded from its text. -/
def Recovers (encode : α → JsonValue) (decode : JsonValue → Option α) (part : α) : Prop :=
  (parse? (encode part).render).bind decode = some part

instance [DecidableEq α] (part : α) : Decidable (Recovers encode decode part) :=
  inferInstanceAs (Decidable ((parse? (encode part).render).bind decode = some part))

/-- What recovers is restored. -/
theorem restores_of_recovers {part : α} (recovers : Recovers encode decode part) :
    Restores encode decode part := by
  rwa [Recovers, parse?_render, Option.bind_some] at recovers

/-- Texts are restored. -/
theorem restores_text (text : String) : Restores .text text? text := rfl

/-- A text is read back from what was written. -/
@[simp] theorem text?_reread (text : String) : text? (reread (.text text)) = some text := rfl

/-- A truth value is read back from what was written. -/
@[simp] theorem bool?_reread (value : Bool) : bool? (reread (.boolean value)) = some value := rfl

/-- Signed words are restored. -/
theorem restores_signed {value : Int} (signed : IsSignedWord value) :
    Restores .integer int64? value := by
  obtain ⟨low, high⟩ := signed
  have wider : (Word64.half : Int) < Word64.count := by decide
  rw [Restores, reread, rereadNumber_integer low (by omega), int64?, int?, if_pos (by omega)]

/-- Words are restored. -/
theorem restores_word {value : Nat} (word : IsWord value) : Restores ofNat nat64? value := by
  have small : (value : Int) < Word64.count := Int.ofNat_lt.mpr word
  rw [Restores, ofNat, reread, rereadNumber_integer (by omega) small, nat64?, int?,
    if_pos (by omega)]
  rfl

/-- Reading one part after the other. -/
theorem mapM_map_eq_some {β γ δ : Type} {read : γ → Option δ} {written : β → γ} {part : β → δ}
    {items : List β} (each : ∀ item ∈ items, read (written item) = some (part item)) :
    (items.map written).mapM read = some (items.map part) := by
  induction items with
  | nil => rfl
  | cons item rest inductionHypothesis =>
    obtain ⟨here, others⟩ := List.forall_mem_cons.mp each
    rw [List.map_cons, List.mapM_cons, here, inductionHypothesis others]
    rfl

/-- A list is restored if its items are. -/
theorem restores_list {items : List α} (inner : ∀ item ∈ items, Restores encode decode item) :
    Restores (fun items => .array (items.map encode)) (list? decode) items := by
  rw [Restores, reread, rereadItems_eq, list?, List.map_map]
  exact (mapM_map_eq_some inner).trans (by rw [List.map_id'])

/-- Lists of texts are restored. -/
theorem restores_texts (texts : List String) : Restores ofTexts (list? text?) texts :=
  restores_list fun text _ => restores_text text

/-- An optional part is restored if it is restored where present and not written as nothing. -/
theorem restores_option {part : Option α} (inner : ∀ value ∈ part, Restores encode decode value)
    (solid : ∀ value ∈ part, (encode value).reread ≠ .null) :
    Restores (ofOption encode) (option? decode) part := by
  cases part with
  | none => rfl
  | some value =>
    have decoded := inner value rfl
    rw [Restores, ofOption, option?, decoded]
    · rfl
    · exact solid value rfl

/-- Optional texts are restored. -/
theorem restores_texts? (part : Option String) :
    Restores (ofOption .text) (option? text?) part :=
  restores_option (fun text _ => restores_text text) (by simp [reread])

/-- Named entries are restored if their values are. -/
theorem restores_entries {entries : List (String × α)}
    (inner : ∀ entry ∈ entries, Restores encode decode entry.2) :
    Restores (fun entries => .object (entries.map fun entry => (entry.1, encode entry.2)))
      (map? decode) entries := by
  have each : ∀ entry ∈ entries,
      (decode (encode entry.2).reread).map (fun value => (entry.1, value)) = some entry := by
    intro entry inside
    rw [inner entry inside]
    rfl
  rw [Restores, reread, rereadMembers_eq, map?, List.map_map]
  exact (mapM_map_eq_some each).trans (by rw [List.map_id'])

/-- Of members with distinct names one has a given name. -/
theorem filter_name_eq {members : List (String × JsonValue)} {member : String × JsonValue}
    (distinct : (members.map Prod.fst).Nodup) (inside : member ∈ members) :
    members.filter (fun other => other.1 = member.1) = [member] := by
  induction members with
  | nil => cases inside
  | cons first others inductionHypothesis =>
    rw [List.map_cons, List.nodup_cons] at distinct
    rcases List.mem_cons.mp inside with rfl | later
    · have none : others.filter (fun other => other.1 = member.1) = [] := by
        rw [List.filter_eq_nil_iff]
        intro other member same
        exact distinct.1 (List.mem_map.mpr ⟨other, member, by simpa using same⟩)
      rw [List.filter_cons_of_pos (by simp), none]
    · have different : first.1 ≠ member.1 := by
        intro same
        exact distinct.1 (same ▸ List.mem_map_of_mem later)
      rw [List.filter_cons_of_neg (by simpa using different), inductionHypothesis distinct.2 later]

/-- The members of an object are found under their names. -/
theorem fields?_reread {names : List String} {members : List (String × JsonValue)}
    (named : members.map Prod.fst = names) (distinct : names.Nodup) :
    fields? names (reread (.object members)) =
      some (members.map fun member => some member.2.reread) := by
  subst named
  rw [reread, rereadMembers_eq, fields?]
  refine mapM_map_eq_some fun member inside => ?_
  have alone : (members.map fun member => (member.1, member.2.reread)).filter
      (fun other => other.1 = member.1) = [(member.1, member.2.reread)] := by
    rw [List.filter_map, Function.comp_def, filter_name_eq distinct inside]
    rfl
  rw [alone]

/-! ## The parts of a saved index -/

namespace FileRecord

/-- The numbers of a record are words. -/
@[mk_iff]
structure Fits (record : FileRecord) : Prop where
  size : IsWord record.size
  modified : IsSignedWord record.modified

instance (record : FileRecord) : Decidable record.Fits := decidable_of_iff _ (fits_iff record).symm

/-- A record within machine range is restored. -/
theorem Fits.restores {record : FileRecord} (fits : record.Fits) :
    Restores toJson ofJson? record := by
  have size := restores_word fits.size
  have modified := restores_signed fits.modified
  have checksum := restores_texts? record.checksum
  rw [Restores, ofJson?, toJson, fields?_reread]
  case named => rfl
  case distinct => decide
  simp [requiredField, optionalField, size, modified, checksum]

end FileRecord

/-- A map is put together again from its entries. -/
theorem fileMapOf_toList {β : Type} (map : FileMap β) : fileMapOf map.toList = map := by
  refine Std.ExtTreeMap.ext_getElem? fun key => ?_
  have entries (value : β) : (key, value) ∈ map.toList ↔ map[key]? = some value :=
    Std.ExtTreeMap.mem_toList_iff_getElem?_eq_some
  rw [fileMapOf, FileMap.getElem?_foldl_insert Prod.fst Prod.snd, Std.ExtTreeMap.getElem?_empty,
    Option.or_none]
  cases found : lastFor Prod.fst map.toList key with
  | none =>
    cases stored : map[key]? with
    | none => rfl
    | some value =>
      have listed : key ∈ map.toList.map Prod.fst :=
        List.mem_map.mpr ⟨(key, value), (entries value).mpr stored, rfl⟩
      rw [← isSome_lastFor, found] at listed
      cases listed
  | some entry =>
    have member := List.mem_reverse.mp (List.mem_of_find?_eq_some found)
    obtain rfl : entry.1 = key := by simpa using List.find?_some found
    exact ((entries entry.2).mp member).symm

/-- A map is restored if its values are. -/
theorem restores_fileMap {map : FileMap α}
    (inner : ∀ {key : String} {value : α}, map[key]? = some value → Restores encode decode value) :
    map? decode (reread (.object (map.toList.map fun entry => (entry.1, encode entry.2)))) =
      some map.toList :=
  restores_entries fun _ member =>
    inner (Std.ExtTreeMap.mem_toList_iff_getElem?_eq_some.mp member)

/-- A set of files is restored. -/
theorem fileSet?_ofTexts (set : FileSet) : fileSet? (ofTexts set.toList).reread = some set := by
  have texts := restores_texts set.toList
  rw [fileSet?, texts, Option.map_some]
  congr 1
  refine Std.ExtTreeSet.ext_mem fun text => ?_
  rw [Std.ExtTreeSet.mem_ofList, List.contains_iff_mem, Std.ExtTreeSet.mem_toList]

namespace Snapshot

/-- The numbers of a snapshot are words. -/
@[mk_iff]
structure Fits (snapshot : Snapshot) : Prop where
  capturedAt : IsSignedWord snapshot.capturedAt
  files : ∀ {path : String} {record : FileRecord}, snapshot.files[path]? = some record → record.Fits

instance (snapshot : Snapshot) : Decidable snapshot.Fits :=
  decidable_of_iff
    (IsSignedWord snapshot.capturedAt ∧ ∀ record ∈ snapshot.files.values, record.Fits)
    (by rw [fits_iff, FileMap.forall_mem_values_iff])

/-- A snapshot within machine range is restored, but for the files it skipped. -/
theorem Fits.restores {snapshot : Snapshot} (fits : snapshot.Fits) :
    ofJson? snapshot.toJson.reread = some { snapshot with skipped := [] } := by
  have capturedAt := restores_signed fits.capturedAt
  have files := restores_fileMap fun stored => (fits.files stored).restores
  rw [ofJson?, toJson, fields?_reread]
  case named => rfl
  case distinct => decide
  simp [requiredField, capturedAt, files, fileMapOf_toList]

end Snapshot

/-- The kind of a symbol is restored from its label. -/
theorem SymbolKind.ofJson?_reread (kind : SymbolKind) :
    SymbolKind.ofJson? (reread (.text kind.label)) = some kind := ofLabel?_label kind

namespace Symbol

/-- The numbers of a symbol are words. -/
@[mk_iff]
structure Fits (symbol : Symbol) : Prop where
  startLine : IsWord symbol.startLine
  endLine : IsWord symbol.endLine
  indexedAt : IsSignedWord symbol.indexedAt

instance (symbol : Symbol) : Decidable symbol.Fits := decidable_of_iff _ (fits_iff symbol).symm

/-- A symbol within machine range is restored. -/
theorem Fits.restores {symbol : Symbol} (fits : symbol.Fits) : Restores toJson ofJson? symbol := by
  have startLine := restores_word fits.startLine
  have endLine := restores_word fits.endLine
  have signature := restores_texts? symbol.signature
  have indexedAt := restores_signed fits.indexedAt
  rw [Restores, ofJson?, toJson, fields?_reread]
  case named => rfl
  case distinct => decide
  simp [requiredField, optionalField, SymbolKind.ofJson?_reread, startLine, endLine, signature,
    indexedAt]

end Symbol

/-- An import within machine range is restored. -/
theorem ImportFact.restores {fact : ImportFact} (line : IsWord fact.line) :
    Restores toJson ofJson? fact := by
  have line := restores_word line
  have specifiers := restores_texts fact.specifiers
  rw [Restores, ofJson?, toJson, fields?_reread]
  case named => rfl
  case distinct => decide
  simp [requiredField, line, specifiers]

/-- An export within machine range is restored. -/
theorem ExportFact.restores {fact : ExportFact} (line : IsWord fact.line) :
    Restores toJson ofJson? fact := by
  have line := restores_word line
  rw [Restores, ofJson?, toJson, fields?_reread]
  case named => rfl
  case distinct => decide
  simp [requiredField, line]

namespace Graph.Node

/-- The line numbers of a node are words. -/
@[mk_iff]
structure Fits (node : Node) : Prop where
  imports : ∀ fact ∈ node.imports, IsWord fact.line
  exports : ∀ fact ∈ node.exports, IsWord fact.line

instance (node : Node) : Decidable node.Fits := decidable_of_iff _ (fits_iff node).symm

/-- A node within machine range is restored. -/
theorem Fits.restores {node : Node} (fits : node.Fits) : Restores toJson ofJson? node := by
  have imports := restores_list fun fact member => ImportFact.restores (fits.imports fact member)
  have exports := restores_list fun fact member => ExportFact.restores (fits.exports fact member)
  have unresolved := restores_texts node.unresolved
  rw [Restores, ofJson?, toJson, fields?_reread]
  case named => rfl
  case distinct => decide
  simp [requiredField, imports, exports, unresolved, fileSet?_ofTexts]

end Graph.Node

/-- A graph is restored if its nodes are within machine range. -/
theorem ImportGraph.restores {graph : ImportGraph}
    (fits : ∀ {path : String} {node : Graph.Node}, graph.nodes[path]? = some node → node.Fits) :
    Restores toJson ofJson? graph := by
  have nodes := restores_fileMap fun stored => (fits stored).restores
  rw [Restores, ofJson?, toJson, fields?_reread]
  case named => rfl
  case distinct => decide
  simp [requiredField, nodes, fileMapOf_toList]

/-- An entry of the cache is restored if the components of its vector recover. -/
theorem CacheEntry.restores {entry : CacheEntry}
    (vector : ∀ component ∈ entry.vector, Recovers ofFloat32 float32? component)
    (lastAccess : IsSignedWord entry.lastAccess) : Restores toJson ofJson? entry := by
  have vector := restores_list fun component member =>
    restores_of_recovers (vector component member)
  have lastAccess := restores_signed lastAccess
  rw [Restores, ofJson?, toJson, fields?_reread]
  case named => rfl
  case distinct => decide
  simp [requiredField, vector, lastAccess]

namespace ChangeCounts

/-- The counts are words. -/
@[mk_iff]
structure Fits (counts : ChangeCounts) : Prop where
  added : IsWord counts.added
  modified : IsWord counts.modified
  deleted : IsWord counts.deleted
  unchanged : IsWord counts.unchanged

instance (counts : ChangeCounts) : Decidable counts.Fits :=
  decidable_of_iff _ (fits_iff counts).symm

/-- Counts within machine range are restored. -/
theorem Fits.restores {counts : ChangeCounts} (fits : counts.Fits) :
    Restores toJson ofJson? counts := by
  have added := restores_word fits.added
  have modified := restores_word fits.modified
  have deleted := restores_word fits.deleted
  have unchanged := restores_word fits.unchanged
  rw [Restores, ofJson?, toJson, fields?_reread]
  case named => rfl
  case distinct => decide
  simp [requiredField, added, modified, deleted, unchanged]

end ChangeCounts

namespace PassStats

/-- The counts and times are words. -/
@[mk_iff]
structure Fits (stats : PassStats) : Prop where
  totalSymbols : IsWord stats.totalSymbols
  filesIndexed : IsWord stats.filesIndexed
  filesSkipped : IsWord stats.filesSkipped
  lastUpdated : IsSignedWord stats.lastUpdated
  embeddingsGenerated : IsWord stats.embeddingsGenerated
  embeddingsFailed : IsWord stats.embeddingsFailed
  symbolsEvicted : IsWord stats.symbolsEvicted
  changes : stats.changes.Fits
  duration : IsWord stats.duration

instance (stats : PassStats) : Decidable stats.Fits := decidable_of_iff _ (fits_iff stats).symm

/-- Statistics within machine range are restored if their memory recovers. -/
theorem Fits.restores {stats : PassStats} (fits : stats.Fits)
    (megabytes : Recovers ofFloat float? stats.megabytes) : Restores toJson ofJson? stats := by
  have totalSymbols := restores_word fits.totalSymbols
  have filesIndexed := restores_word fits.filesIndexed
  have filesSkipped := restores_word fits.filesSkipped
  have megabytes := restores_of_recovers megabytes
  have lastUpdated := restores_signed fits.lastUpdated
  have generated := restores_word fits.embeddingsGenerated
  have failed := restores_word fits.embeddingsFailed
  have evicted := restores_word fits.symbolsEvicted
  have changes := fits.changes.restores
  have duration := restores_word fits.duration
  rw [Restores, ofJson?, toJson, fields?_reread]
  case named => rfl
  case distinct => decide
  simp [requiredField, totalSymbols, filesIndexed, filesSkipped, megabytes, lastUpdated, generated,
    failed, evicted, changes, duration]

end PassStats

namespace SavedIndex

/-- The integers of a saved index are words. -/
@[mk_iff]
structure Fits (saved : SavedIndex) : Prop where
  snapshot : ∀ snapshot ∈ saved.snapshot, snapshot.Fits
  symbols : ∀ symbol ∈ saved.symbols, symbol.Fits
  symbolsUpdated : IsSignedWord saved.symbolsUpdated
  graph : ∀ {path : String} {node : Graph.Node}, saved.graph.nodes[path]? = some node → node.Fits
  lastAccess : ∀ entry ∈ saved.embeddings, IsSignedWord entry.lastAccess
  stats : saved.stats.Fits

instance (saved : SavedIndex) : Decidable saved.Fits :=
  decidable_of_iff
    ((∀ snapshot ∈ saved.snapshot, snapshot.Fits) ∧ (∀ symbol ∈ saved.symbols, symbol.Fits) ∧
      IsSignedWord saved.symbolsUpdated ∧ (∀ node ∈ saved.graph.nodes.values, node.Fits) ∧
      (∀ entry ∈ saved.embeddings, IsSignedWord entry.lastAccess) ∧ saved.stats.Fits)
    (by rw [fits_iff, FileMap.forall_mem_values_iff])

/-- The components of all vectors are finite. -/
def IsFinite (saved : SavedIndex) : Prop :=
  ∀ entry ∈ saved.embeddings, ∀ component ∈ entry.vector, component.isFinite = true

instance (saved : SavedIndex) : Decidable saved.IsFinite :=
  inferInstanceAs (Decidable (∀ entry ∈ saved.embeddings, ∀ component ∈ entry.vector,
    component.isFinite = true))

/-- The finite floating-point numbers of a saved index are decoded from their texts. -/
@[mk_iff]
structure FloatsRecover (saved : SavedIndex) : Prop where
  vectors : ∀ entry ∈ saved.embeddings, ∀ component ∈ entry.vector, component.isFinite = true →
    Recovers ofFloat32 float32? component
  megabytes : Recovers ofFloat float? saved.stats.megabytes

instance (saved : SavedIndex) : Decidable saved.FloatsRecover :=
  decidable_of_iff _ (floatsRecover_iff saved).symm

/-- Parsing what was saved is decoding what the text reads back as. -/
theorem parse?_eq (saved : SavedIndex) : parse? saved.render = ofJson? saved.toJson.reread := by
  rw [parse?, render, JsonValue.parse?_render, toJson, reread]
  simp only [Option.bind_eq_bind, Option.bind_some]

/-- A saved index is read back whole. -/
theorem Fits.parse?_render {saved : SavedIndex} (fits : saved.Fits) (finite : saved.IsFinite)
    (floats : saved.FloatsRecover)
    (unskipped : ∀ snapshot ∈ saved.snapshot, snapshot.skipped = []) :
    parse? saved.render = some saved := by
  have index := restores_word (show version < Word64.count by decide)
  have snapshot :
      Restores (ofOption Snapshot.toJson) (option? Snapshot.ofJson?) saved.snapshot := by
    refine restores_option (fun snapshot taken => ?_) (by simp [Snapshot.toJson, reread])
    rw [Restores, (fits.snapshot snapshot taken).restores, ← unskipped snapshot taken]
  have symbols := restores_list fun symbol member => (fits.symbols symbol member).restores
  have symbolsUpdated := restores_signed fits.symbolsUpdated
  have graph := ImportGraph.restores fits.graph
  have embeddings := restores_list fun entry member =>
    CacheEntry.restores (fun component inside =>
      floats.vectors entry member component inside (finite entry member component inside))
      (fits.lastAccess entry member)
  have stats := fits.stats.restores floats.megabytes
  rw [parse?_eq, ofJson?, toJson, fields?_reread]
  case named => rfl
  case distinct => decide
  simp [requiredField, optionalField, index, snapshot, symbols, symbolsUpdated, graph, embeddings,
    stats]

/-- What is read of a saved index has a snapshot when the saved one has. -/
theorem isSome_snapshot_of_parse? {saved read : SavedIndex}
    (parsed : parse? saved.render = some read) (taken : saved.snapshot.isSome) :
    read.snapshot.isSome := by
  obtain ⟨snapshot, taken⟩ := Option.isSome_iff_exists.mp taken
  rw [parse?_eq, ofJson?, toJson, fields?_reread] at parsed
  case named => rfl
  case distinct => decide
  simp only [List.map_cons, List.map_nil, Option.bind_eq_bind, Option.bind_some, requiredField,
    optionalField, taken, ofOption] at parsed
  obtain ⟨index, -, parsed⟩ := Option.bind_eq_some_iff.mp parsed
  split at parsed
  · obtain ⟨field, decoded, parsed⟩ := Option.bind_eq_some_iff.mp parsed
    have same : read.snapshot = field := by
      iterate 5 obtain ⟨_, -, parsed⟩ := Option.bind_eq_some_iff.mp parsed
      cases parsed
      rfl
    rw [Snapshot.toJson, reread, option?] at decoded
    · obtain ⟨found, -, rfl⟩ := Option.map_eq_some_iff.mp decoded
      rw [same]
      rfl
    · simp
  · cases parsed

end SavedIndex

end SourceAtlas

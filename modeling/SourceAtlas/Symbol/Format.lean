import SourceAtlas.Json.Value
import SourceAtlas.Symbol.Table
import SourceAtlas.Symbol.Usage

/-!
# The JSON form of symbol reports

Other tools read usages, cross references and counts in this form.
-/

namespace SourceAtlas

/-- The written usage. -/
def Usage.toJson (usage : Usage) : JsonValue :=
  .object [("file_path", .text usage.file), ("line", .ofNat usage.line),
    ("column", .ofNat usage.column), ("line_text", .text usage.text),
    ("kind", .text usage.kind.label)]

/-- The written cross reference. -/
def CrossReference.toJson (reference : CrossReference) : JsonValue :=
  .object [("name", .text reference.name),
    ("definition_files", .ofTexts reference.definitionFiles),
    ("imported_by", .ofTexts reference.importedBy),
    ("exported_from", .ofTexts reference.exportedFrom),
    ("usage_files", .ofTexts reference.usageFiles)]

/-- The written counts of symbols. -/
def SymbolStats.toJson (stats : SymbolStats) : JsonValue :=
  .object [("symbol_count", .ofNat stats.symbolCount), ("file_count", .ofNat stats.fileCount),
    ("by_kind", .object (stats.byKind.map fun kind => (kind.1.label, .ofNat kind.2))),
    ("last_updated_millis", .integer stats.lastUpdated)]

end SourceAtlas

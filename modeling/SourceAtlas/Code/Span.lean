import SourceAtlas.Code.Token
import SourceAtlas.Facts
import SourceAtlas.Text.CharClass

/-!
# Spans of source text

A declaration covers the text from its first token to its last. Its facts are
taken from that span: the lines it covers and, for functions, the header before
the body as one line.
-/

namespace SourceAtlas

/-- Facts put after others. -/
def FileFacts.append (first second : FileFacts) : FileFacts where
  symbols := first.symbols ++ second.symbols
  imports := first.imports ++ second.imports
  exports := first.exports ++ second.exports

instance : Append FileFacts := ⟨FileFacts.append⟩

/-- The facts of several parts in order. -/
def FileFacts.concat (parts : List FileFacts) : FileFacts := parts.foldl FileFacts.append {}

/-- The facts with the symbols in order of their line and name; ties stay as they are. -/
def FileFacts.sorted (facts : FileFacts) : FileFacts :=
  { facts with
    symbols := facts.symbols.mergeSort fun a b =>
      a.startLine < b.startLine || (a.startLine == b.startLine && a.name ≤ b.name) }

namespace Code

/-- A stretch of source text. -/
structure Span where
  start : Nat
  stop : Nat
  line : Nat
  lastLine : Nat
  deriving DecidableEq, Repr

namespace Span

/-- The span from the first token to the last. -/
def ofTokens (first last : Token) : Span where
  start := first.start
  stop := last.stop
  line := first.line
  lastLine := last.lastLine

/-- The span of a tree. -/
def ofTree (tree : Tree) : Span := ofTokens tree.first tree.last

/-- The span that goes on to the end of a later token. -/
def upTo (span : Span) (last : Token) : Span :=
  { span with stop := last.stop, lastLine := last.lastLine }

/-- The text of a span. -/
def text (span : Span) (source : List Char) : String :=
  String.ofList ((source.drop span.start).take (span.stop - span.start))

end Span

/-- Characters that end a header without belonging to it. -/
def isHeaderEnd (c : Char) : Bool := c = ';' || c = '=' || c = ':' || c = '\x7b'

/-- A header on one line: white space runs become one space and marks at the end are dropped. -/
def headerText (text : String) : Option String :=
  let header := Text.trimEnd (Text.trimEndMatches isHeaderEnd (Text.collapseBlanks text))
  if header = "" then none else some header

/-- The header of a span up to its body. -/
def signature (source : List Char) (span : Span) (bodyStart : Option Nat) : Option String :=
  headerText ({ span with stop := bodyStart.getD span.stop }.text source)

/-- The symbol of a name; no name, no symbol. -/
def declared (kind : SymbolKind) (name : String) (span : Span) (signature : Option String) :
    FileFacts :=
  if name = "" then {}
  else
    { symbols :=
        [{ name, kind, startLine := span.line, endLine := span.lastLine, signature }] }

/-- An import with the symbols it binds. -/
def imported (source : String) (specifiers : List String) (span : Span) : FileFacts :=
  FileFacts.concat (specifiers.map fun name => declared .importName name span none) ++
    { imports := [{ source, specifiers, line := span.line }] }

/-- An exported name; no name, no export. -/
def exported (name : String) (line : Nat) : FileFacts :=
  if name = "" then {} else { exports := [{ name, line }] }

/-- Quotes dropped at both ends. -/
def withoutQuotes (text : String) : String :=
  Text.trimMatches (fun c => c = '"' || c = '\'' || c.toNat = 0x60) text

end Code

end SourceAtlas

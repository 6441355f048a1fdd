import FluentQuery.Sql.Token

/-!
# Quotes, comments and numbers of the dialects

* **`Quoting`** — how one kind of quoted text is opened and closed, and what keeps its closing
  quote from closing it;
* **`LexicalRules`** — all the quotes, comments and forms of numbers of a dialect;
* **`LexicalRules.of`** — the rules of each dialect, as what they add to the generic ones.
-/

namespace FluentQuery.Sql

/-- A kind of quoted text. -/
structure Quoting where
  opening : String
  closing : String
  kind : Kind
  /-- Characters in front of which, or in front of the closing quote, a quote does not close. -/
  escapes : List Char
  /-- The base that the content must be a number of. -/
  base : Option Nat := none
  deriving Inhabited

/-- How a dialect reads characters. -/
structure LexicalRules where
  texts : List Quoting
  /-- The quotes of names. -/
  names : List (Char × Char) := [('"', '"')]
  nameEscapes : List Char := []
  /-- Marks that start a comment up to the end of the line. -/
  lineComments : List String := ["--"]
  /-- A comment may hold comments. -/
  nestedComments : Bool := true
  /-- A tag between dollar signs starts a text that the same tag ends. -/
  tags : Bool := false
  /-- Marks that belong to a word they stand in. -/
  wordMarks : List Char := []
  /-- Digits after zero and b are bits. -/
  bits : Bool := false
  /-- Digits after zero and x are sixteen in number. -/
  hexadecimal : Bool := false
  /-- An underscore may stand between digits. -/
  underscores : Bool := false
  /-- A word may start with a digit. -/
  digitWords : Bool := false
  /-- Letters behind a number that name its type. -/
  suffixes : List String := []
  /-- Words that take the rest of a statement as a text. -/
  commands : List String := ["COMMAND", "EXECUTE", "FETCH", "SHOW", "RENAME"]
  deriving Inhabited

namespace Quoting

/-- A text with a letter in front of its quote, in both cases of the letter. -/
def lettered (letter quote : String) (kind : Kind) (escapes : List Char)
    (base : Option Nat := none) : List Quoting :=
  [⟨letter ++ quote, quote, kind, escapes, base⟩,
    ⟨letter.map Char.toUpper ++ quote, quote, kind, escapes, base⟩]

/-- Texts in each of several quotes, with or without an N in front. -/
def plain (quotes : List String) (escapes : List Char) : List Quoting :=
  quotes.flatMap fun q => ⟨q, q, .text, escapes, none⟩ :: lettered "n" q .markedText escapes

/-- Bits in quotes. -/
def bits : List Quoting := lettered "b" "'" .markedNumber ['\''] (some 2)

/-- Digits of base sixteen in quotes. -/
def hexadecimal : List Quoting := lettered "x" "'" .markedNumber ['\''] (some 16)

/-- Bytes in quotes with backslashes. -/
def bytes : List Quoting := lettered "e" "'" .markedNumber ['\'', '\\']

/-- Texts between a bracket in front of which stands a Q, and the bracket that closes it. -/
def bracketed : List Quoting :=
  [("[", "]"), ("\x7b", "\x7d"), ("(", ")"), ("<", ">"), ("!", "!"), ("|", "|")].flatMap
    fun (a, b) =>
      ["q'", "Q'"].map fun q => ⟨q ++ a, b ++ "'", .markedText, ['\''], none⟩

end Quoting

namespace LexicalRules

/-- The generic rules. -/
def generic : LexicalRules := { texts := Quoting.plain ["'"] ['\''] }

/-- Commands without the one that shows what there is. -/
def quietCommands : List String := ["COMMAND", "EXECUTE", "FETCH", "RENAME"]

/-- Rules of a dialect. -/
def of (d : Dialect) : LexicalRules :=
  match d.family with
  | .mysql =>
    let escapes := ['\'', '"', '\\']
    { texts := Quoting.plain ["'", "\""] escapes ++ Quoting.bits ++ Quoting.hexadecimal,
      names := [('`', '`')], lineComments := ["-- ", "#"], nestedComments := false, bits := true,
      hexadecimal := true, digitWords := true, commands := "REPLACE" :: quietCommands }
  | .sqlite =>
    { generic with
      texts := generic.texts ++ Quoting.hexadecimal, names := [('"', '"'), ('[', ']'), ('`', '`')],
      nestedComments := false, hexadecimal := true,
      commands := "REPLACE" :: generic.commands }
  | .postgres =>
    if d == .redshift then
      { generic with
        texts := Quoting.plain ["'"] ['\\', '\''] ++ Quoting.bytes, tags := true,
        wordMarks := ['$', '#'] }
    else
      { generic with
        texts := generic.texts ++ Quoting.bits ++ Quoting.hexadecimal ++ Quoting.bytes,
        tags := true, wordMarks := ['$'], bits := true, hexadecimal := true }
  | .duckdb =>
    { generic with
      texts := generic.texts ++ Quoting.bytes, tags := true, underscores := true,
      commands := quietCommands }
  | .bigquery =>
    let quotes := ["'", "\"", "'''", "\"\"\""]
    { generic with
      texts := Quoting.plain quotes ['\\'] ++
        quotes.flatMap (Quoting.lettered "b" · .markedNumber ['\\']) ++
        quotes.flatMap (Quoting.lettered "r" · .markedText ['\\']),
      names := [('`', '`')], nameEscapes := ['\\'], lineComments := ["--", "#"],
      nestedComments := false, hexadecimal := true }
  | .oracle =>
    { generic with
      texts := generic.texts ++ Quoting.bracketed, nestedComments := false,
      wordMarks := ['@', '$', '#'] }
  | .tsql =>
    { generic with
      names := [('"', '"'), ('[', ']')], wordMarks := ['@', '$', '#'], hexadecimal := true,
      commands := "END" :: generic.commands }
  | .hive =>
    let escapes := ['\\']
    { texts := Quoting.plain ["'", "\""] escapes ++
        (if d == .hive then []
          else
            ["'", "\""].flatMap (Quoting.lettered "r" · .markedText escapes) ++
              Quoting.hexadecimal),
      names := [('`', '`')], nestedComments := d == .databricks, digitWords := true,
      hexadecimal := d != .hive, suffixes := ["L", "S", "Y", "D", "F", "BD"] }
  | .presto =>
    { generic with
      texts := generic.texts ++ Quoting.hexadecimal ++
        ["U&'", "u&'"].map (⟨·, "'", .markedText, ['\''], none⟩),
      hexadecimal := true, nestedComments := false }
  | .snowflake =>
    { generic with
      texts := Quoting.plain ["'"] ['\\', '\''] ++ Quoting.hexadecimal ++
        [⟨"$$", "$$", .markedText, [], none⟩],
      lineComments := ["--", "//"], nestedComments := false, wordMarks := ['$'],
      hexadecimal := true, commands := quietCommands }
  | .clickhouse =>
    { texts := Quoting.plain ["'"] ['\'', '\\'] ++ Quoting.hexadecimal ++ Quoting.bits,
      names := [('"', '"'), ('`', '`')], nameEscapes := ['\\'],
      lineComments := ["--", "#", "#!"], tags := true, bits := true, hexadecimal := true,
      underscores := true, digitWords := true }
  | .drill =>
    { texts := Quoting.plain ["'"] ['\\'], names := [('`', '`')] }
  | .teradata =>
    { generic with texts := generic.texts ++ Quoting.hexadecimal, hexadecimal := true }
  | .exasol => { generic with names := [('"', '"'), ('[', ']')] }
  | .tableau =>
    { texts := Quoting.plain ["'", "\""] ['\''], names := [('[', ']')] }
  | .solr => { generic with names := [('`', '`')] }
  | _ => generic

end LexicalRules

end FluentQuery.Sql

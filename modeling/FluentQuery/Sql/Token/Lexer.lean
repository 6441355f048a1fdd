import FluentQuery.Sql.Token.Quoted
import FluentQuery.Sql.Vocabulary
import FluentQuery.Text.LetterCase
import FluentQuery.Text.Word

/-!
# Cutting a text into tokens

A `Scan` holds the characters that are left and the tokens so far. `Scan.step` takes blanks, a
comment or a token from the front, and `tokens?` repeats it. A text with an open quote or comment
has no tokens.

A comment belongs to the token in front of it if it starts on the same line, and otherwise to the
next one. A command at the start of a statement takes the rest of the statement as one text.
-/

namespace FluentQuery.Sql

/-- How far a text has been cut into tokens. -/
structure Scan where
  rest : List Char
  /-- The place of the first character that is left. -/
  position : Nat := 0
  /-- The tokens so far, the latest first. -/
  tokens : List Token := []
  line : Nat := 0
  /-- The line of the latest token. -/
  tokenLine : Option Nat := none
  /-- Whether a comment waits for its token. -/
  pending : Bool := false
  /-- The tokens up to a command that takes what follows, and what follows it. -/
  command : Option (List Token × List Char) := none

namespace Scan

/-- Goes on behind characters that make no token. -/
def skip (s : Scan) (count : Nat) : Scan :=
  { s with
    rest := s.rest.drop count, position := s.position + count,
    line := s.line + countBreaks (s.rest.take count) }

/-- Whether a token that starts a statement would come next. -/
def atStart (s : Scan) : Bool :=
  match s.tokens with
  | [] => true
  | t :: _ => t.kind == .mark ";" || t.kind == .keyword "BEGIN"

/-- Whether a kind of token is a command in a dialect. -/
def isCommand (rules : LexicalRules) : Kind → Bool
  | .keyword w => rules.commands.contains w
  | _ => false

/-- Adds a token that takes some characters. -/
def add (rules : LexicalRules) (s : Scan) (kind : Kind) (text : String) (count : Nat) : Scan :=
  let token : Token :=
    { kind, text, upper := Text.upper text, start := s.position, stop := s.position + count,
      commented := s.pending }
  let next := s.skip count
  let tokens := token :: s.tokens
  let takesRest := isCommand rules kind && s.atStart && s.command.isNone
    && next.rest.head? != some ';'
  { next with
    tokens, tokenLine := some next.line, pending := false,
    command := if takesRest then some (tokens, next.rest) else s.command }

/-- Goes on behind a comment of some characters. -/
def addComment (s : Scan) (count : Nat) : Scan :=
  let next := s.skip count
  if s.tokenLine == some s.line then
    { next with
      tokens := match s.tokens with
        | t :: ts => { t with commented := true } :: ts
        | [] => [],
      tokenLine := some next.line, pending := false }
  else { next with pending := true }

/-- Ends a command: what it has taken becomes one text. -/
def endCommand (s : Scan) : Scan :=
  match s.command with
  | none => s
  | some (tokens, taken) =>
    let text := String.ofList (Text.stripList (taken.take (taken.length - s.rest.length)))
    { s with
      command := none,
      tokens :=
        if text.isEmpty then tokens
        else { kind := .text, text, upper := text, start := 0, stop := s.position } :: tokens }

end Scan

/-- A digit or a mark that goes on a number; `decimal` tells whether there was a point, and
`exponent` how much there is of an exponent. -/
def numberLength (underscores point : Bool) : Bool → Nat → List Char → Nat
  | _, _, [] => 0
  | decimal, exponent, c :: rest =>
    if c.isDigit then numberLength underscores point decimal exponent rest + 1
    else if c == '.' && !decimal then
      if point then numberLength underscores point true exponent rest + 1 else 0
    else if (c == '-' || c == '+') && exponent == 1 then
      match rest with
      | d :: _ => if d.isDigit then numberLength underscores point decimal 2 rest + 1 else 0
      | [] => 0
    else if c.toUpper == 'E' && exponent == 0 then
      numberLength underscores point decimal 1 rest + 1
    else if c == '_' && underscores then
      numberLength underscores point decimal exponent rest + 1
    else 0

/-- Whether a character goes on a word. -/
def isWordPart (d : Dialect) (c : Char) : Bool := (markKind? d c).isNone && !Text.isBlankChar c

/-- The length of the words with blanks between them at the front, in any case of the letters. -/
def wordsLength : List String → List Char → Option Nat
  | [], _ => some 0
  | [w], cs => if (cs.take w.length).map Char.toUpper == w.toList then some w.length else none
  | w :: ws, cs =>
    if (cs.take w.length).map Char.toUpper == w.toList then
      let blanks := (cs.drop w.length).takeWhile Text.isBlankChar
      if blanks.isEmpty then none
      else
        (wordsLength ws (cs.drop (w.length + blanks.length))).map
          (w.length + blanks.length + ·)
    else none

/-- The keyword of several words at the front, which a blank or a mark ends. -/
def phraseAt? (d : Dialect) (cs : List Char) : Option (Kind × Nat) :=
  (phrases d).findSome? fun (words, kind) =>
    match wordsLength words cs with
    | none => none
    | some count =>
      match (cs.drop count).head? with
      | none => some (kind, count)
      | some c =>
        if Text.isBlankChar c || (markKind? d c).isSome then some (kind, count) else none

/-- What a mark at the front starts. -/
inductive Opening where
  | quoting (q : Quoting)
  | comment (closing : Option String)
  | tag
  | mark (k : Kind)

/-- All marks of several characters with what they start. -/
def openings (d : Dialect) (rules : LexicalRules) : List (String × Opening) :=
  rules.texts.map (fun q => (q.opening, .quoting q)) ++
    rules.lineComments.map (fun m => (m, .comment none)) ++
    [("/*", .comment (some "*/")), ("/*+", .comment (some "*/")),
      ("\x7b#", .comment (some "#\x7d"))] ++
    (if rules.tags then [("$", .tag)] else []) ++
    (marks d).map fun (m, k) => (m, .mark k)

/-- Whether a mark is at the front; a blank in it stands for any blank. -/
def startsWith : List Char → List Char → Bool
  | [], _ => true
  | _, [] => false
  | m :: ms, c :: cs => (m == c || (m == ' ' && Text.isBlankChar c)) && startsWith ms cs

/-- The longest mark at the front. -/
def openingAt? (all : List (String × Opening)) (cs : List Char) : Option (String × Opening) :=
  all.foldl (fun best (m, o) =>
    if startsWith m.toList cs && (best.map fun (b, _) => b.length < m.length).getD true then
      some (m, o)
    else best) none

/-- Keywords in front of a hint. -/
def hintedWords : List String := ["SELECT", "INSERT", "UPDATE", "DELETE"]

/-- Takes a number. -/
def Scan.number (d : Dialect) (rules : LexicalRules) (s : Scan) : Scan :=
  let kindOfDigits (base : Nat) : Scan :=
    let count := (s.rest.drop 1).takeWhile (isWordPart d) |>.length
    let digits := (s.rest.drop 2).take (count - 1)
    let kind := if !digits.isEmpty && isNumeral base digits then Kind.markedNumber else .name
    s.add rules kind (String.ofList (s.rest.take (count + 1))) (count + 1)
  match s.rest with
  | '0' :: c :: _ =>
    if c.toUpper == 'B' then
      if rules.bits then kindOfDigits 2 else s.add rules .number "0" 1
    else if c.toUpper == 'X' then
      if rules.hexadecimal then kindOfDigits 16 else s.add rules .number "0" 1
    else decimal s
  | _ => decimal s
where
  /-- Takes a number of base ten, or a word that starts with a digit. -/
  decimal (s : Scan) : Scan :=
    let point := s.tokens.head?.map (·.kind) != some (.mark "@")
    let count := numberLength rules.underscores point false 0 (s.rest.drop 1) + 1
    let word := (s.rest.drop count).takeWhile (isWordPart d)
    let digits := s.add rules .number (String.ofList (s.rest.take count)) count
    match word with
    | [] => digits
    | c :: _ =>
      if !Text.isWordChar c then digits
      else if rules.suffixes.contains (String.ofList (word.map Char.toUpper)) then
        let typed := digits.add rules (.mark "::") "::" 0
        typed.add rules (.type "DOUBLE") (String.ofList word) word.length
      else if rules.digitWords then
        let length := count + word.length
        s.add rules .word (String.ofList (s.rest.take length)) length
      else digits

/-- Takes a comment of which the opening mark is given. -/
def Scan.comment (rules : LexicalRules) (s : Scan) (opening : String) (closing : Option String) :
    Option Scan :=
  let body := s.rest.drop opening.length
  match closing with
  | none => some (s.addComment (s.rest.length - (lineComment s.rest).length))
  | some closing =>
    let after :=
      if opening == "/*" then comment? rules.nestedComments 1 false body
      else (until? closing.toList body).map (·.2)
    match after with
    | none => none
    | some after =>
      let count := s.rest.length - after.length
      let hinted := match s.tokens.head?.map (·.kind) with
        | some (.keyword w) => opening == "/*+" && hintedWords.contains w
        | _ => false
      if hinted then some (s.add rules (.keyword "HINT") "" count) else some (s.addComment count)

/-- Takes a text of a given kind of quotes. -/
def Scan.quoted (rules : LexicalRules) (s : Scan) (q : Quoting) : Option Scan :=
  let quotes := rules.texts.filterMap fun t =>
    match t.opening.toList with
    | [c] => some c
    | _ => none
  match quoted? q.escapes quotes q.closing.toList (s.rest.drop q.opening.length) with
  | none => none
  | some (content, after) =>
    let isValid := match q.base with
      | some base => content.isEmpty || isNumeral base content
      | none => true
    if isValid then
      some (s.add rules q.kind (String.ofList content) (s.rest.length - after.length))
    else none

/-- Takes a word. -/
def Scan.word (d : Dialect) (rules : LexicalRules) (s : Scan) : Scan :=
  let text := s.rest.takeWhile fun c => isWordPart d c || rules.wordMarks.contains c
  let word := String.ofList text
  let kind :=
    if s.tokens.head?.map (·.kind) == some (.mark "@") then .word else wordKind d (Text.upper word)
  s.add rules kind word text.length

/-- Takes what comes first. -/
def Scan.step (d : Dialect) (rules : LexicalRules) (all : List (String × Opening)) (s : Scan) :
    Option Scan :=
  match s.rest with
  | [] => some s
  | c :: rest =>
    if Text.isBlankChar c then some (s.skip 1)
    else if c.isDigit then some (s.number d rules)
    else
      match rules.names.lookup c with
      | some close =>
        let quotes := rules.texts.filterMap fun t =>
          match t.opening.toList with
          | [c] => some c
          | _ => none
        (quoted? (close :: rules.nameEscapes) quotes [close] rest).map fun (content, after) =>
          s.add rules .name (String.ofList content) (s.rest.length - after.length)
      | none =>
        match openingAt? all s.rest with
        | some (_, .quoting q) => s.quoted rules q
        | some (m, .comment closing) => s.comment rules m closing
        | some (_, .tag) =>
          match tagged rest with
          | .mark => some (s.add rules (.mark "@") "$" 1)
          | .text content after =>
            some (s.add rules .markedText (String.ofList content) (s.rest.length - after.length))
          | .unclosed => none
        | some (m, .mark k) => some (s.add rules k m m.length)
        | none =>
          match phraseAt? d s.rest, markKind? d c with
          | some (k, count), _ =>
            some (s.add rules k (String.ofList (s.rest.take count)) count)
          | none, some k => some (s.add rules k (String.ofList [c]) 1)
          | none, none => some (s.word d rules)

/-- The tokens of what is left, by as many steps as there are characters at most. -/
def Scan.run (d : Dialect) (rules : LexicalRules) (all : List (String × Opening)) :
    Nat → Scan → Option (List Token)
  | fuel, s =>
    let s := if s.rest.isEmpty || s.rest.head? == some ';' then s.endCommand else s
    match fuel, s.rest with
    | _, [] =>
      some (match s.tokens with
        | [] => []
        | t :: ts => ({ t with commented := t.commented || s.pending } :: ts).reverse)
    | 0, _ => none
    | fuel + 1, _ =>
      match s.step d rules all with
      | none => none
      | some next => Scan.run d rules all fuel next

/-- The tokens of a text, or nothing when a quote or a comment is left open. -/
def tokens? (d : Dialect) (sql : String) : Option (List Token) :=
  let rules := LexicalRules.of d
  Scan.run d rules (openings d rules) (sql.length + 1) { rest := sql.toList }

end FluentQuery.Sql

import FluentQuery.Settings.Environment
import FluentQuery.Text.Blank

/-!
# Variables from a file

`EnvFile.read` gives the variables of a file with one assignment on a line.

* A name may follow the word `export`, and may stand in single quotes.
* A value in quotes ends at the next quote without a backslash, and backslashes escape in it; a
  value without quotes ends with the line or before a blank and a number sign.
* A name without an equals sign has no value; a line that is no assignment is left out.
* `$` with a name in braces stands for the value of a variable, possibly with a default after
  `:-`.
-/

namespace FluentQuery.EnvFile

/-- Line ends of all kinds as one. -/
def unifyLines : List Char → List Char
  | [] => []
  | '\r' :: '\n' :: rest => '\n' :: unifyLines rest
  | '\r' :: rest => '\n' :: unifyLines rest
  | c :: rest => c :: unifyLines rest

/-- A blank inside a line. -/
def isLineBlank (c : Char) : Bool := Text.isBlankChar c && c != '\n' && c != '\r'

/-- Drops the blanks inside a line. -/
def skipBlanks (cs : List Char) : List Char := cs.dropWhile isLineBlank

/-- The word in front of a name that says to pass the variable on. -/
def skipExport (cs : List Char) : List Char :=
  let after := cs.drop "export".length
  if "export".toList.isPrefixOf cs && (after.head?.map isLineBlank).getD false then skipBlanks after
  else cs

/-- The name at the front, and the rest; none in front of a comment. -/
def readName? (cs : List Char) : Option (Option (List Char) × List Char) :=
  match cs with
  | '#' :: _ => some (none, cs)
  | '\'' :: rest =>
    match rest.span (· != '\'') with
    | (_ :: _, []) => none
    | (c :: name, _ :: after) => some (some (c :: name), after)
    | _ => none
  | cs =>
    match cs.span (fun c => c != '=' && c != '#' && !Text.isBlankChar c) with
    | ([], _) => none
    | (name, after) => some (some name, after)

/-- The text up to the first quote that has no backslash in front of it, and the rest. -/
def upToQuote (quote : Char) : List Char → Option (List Char × List Char)
  | [] => none
  | '\\' :: c :: rest =>
    if c == quote then (upToQuote quote rest).map fun r => ('\\' :: c :: r.1, r.2)
    else (upToQuote quote (c :: rest)).map fun r => ('\\' :: r.1, r.2)
  | c :: rest =>
    if c == quote then some ([], rest) else (upToQuote quote rest).map fun r => (c :: r.1, r.2)

/-- The text up to the last quote, and the rest. -/
def upToLastQuote (quote : Char) (cs : List Char) : Option (List Char × List Char) :=
  let after := (cs.reverse.takeWhile (· != quote)).reverse
  match cs.reverse.dropWhile (· != quote) with
  | [] => none
  | _ :: before => some (before.reverse, after)

/-- The character that a letter after a backslash stands for. -/
def escaped? (double : Bool) (c : Char) : Option Char :=
  if c == '\\' || c == '\'' then some c
  else if !double then none
  else
    match c with
    | '"' => some '"'
    | 'a' => some '\x07'
    | 'b' => some '\x08'
    | 'f' => some '\x0c'
    | 'n' => some '\n'
    | 'r' => some '\r'
    | 't' => some '\t'
    | 'v' => some '\x0b'
    | _ => none

/-- Replaces what is escaped by backslashes. -/
def unescape (double : Bool) : List Char → List Char
  | [] => []
  | '\\' :: c :: rest =>
    match escaped? double c with
    | some d => d :: unescape double rest
    | none => '\\' :: unescape double (c :: rest)
  | c :: rest => c :: unescape double rest

/-- A value without quotes up to a comment. -/
def beforeComment : List Char → List Char
  | [] => []
  | c :: rest =>
    if Text.isBlankChar c && (rest.dropWhile Text.isBlankChar).head? == some '#' then []
    else c :: beforeComment rest

/-- Drops the blanks at the end. -/
def trimEnd (cs : List Char) : List Char := (cs.reverse.dropWhile Text.isBlankChar).reverse

/-- The value at the front, and the rest. -/
def readValue? (cs : List Char) : Option (List Char × List Char) :=
  match cs with
  | [] => some ([], [])
  | '\n' :: _ => some ([], cs)
  | c :: rest =>
    if c == '\'' || c == '"' then
      ((upToQuote c rest).or (upToLastQuote c rest)).map fun r => (unescape (c == '"') r.1, r.2)
    else some (trimEnd (beforeComment (cs.takeWhile (· != '\n'))), cs.dropWhile (· != '\n'))

/-- What follows the end of a line, with a comment before it at most. -/
def endOfLine? (cs : List Char) : Option (List Char) :=
  let rest := skipBlanks cs
  let rest := if rest.head? == some '#' then rest.dropWhile (· != '\n') else rest
  match rest with
  | [] => some []
  | '\n' :: after => some after
  | _ => none

/-- What was read, or the place where reading stopped. -/
def orStop {α : Type} (place : List Char) : Option α → Except (List Char) α
  | some a => .ok a
  | none => .error place

/-- An assignment at the front, and the rest behind its line; if there is none, the text from where
reading stopped. -/
def readAssignment (cs : List Char) :
    Except (List Char) (Option (List Char × Option (List Char)) × List Char) := do
  let start := skipExport cs
  let (name, rest) ← orStop start (readName? start)
  let (value, rest) ← match skipBlanks rest with
    | '=' :: after =>
      (orStop (skipBlanks after) (readValue? (skipBlanks after))).map fun r => (some r.1, r.2)
    | rest => .ok (none, rest)
  let rest ← orStop rest (endOfLine? rest)
  return (name.map fun n => (n, value), rest)

/-- The assignments of a file, by as many lines as there are characters at most. The line on which
reading stops is left out. -/
def assignments : Nat → List Char → List (String × Option String)
  | 0, _ => []
  | fuel + 1, cs =>
    match cs.dropWhile Text.isBlankChar with
    | [] => []
    | cs =>
      match readAssignment cs with
      | .ok (some (name, value), rest) =>
        (String.ofList name, value.map String.ofList) :: assignments fuel rest
      | .ok (none, rest) => assignments fuel rest
      | .error rest => assignments fuel ((rest.dropWhile (· != '\n')).drop 1)

/-- Replaces references to variables, by as many steps as there are characters at most. -/
def expand (lookup : String → Option String) : Nat → List Char → List Char
  | 0, cs => cs
  | _, [] => []
  | fuel + 1, '$' :: '\x7b' :: rest =>
    let name := rest.takeWhile fun c => c != '\x7d' && c != ':'
    let found := (lookup (String.ofList name)).map String.toList
    match rest.dropWhile fun c => c != '\x7d' && c != ':' with
    | '\x7d' :: after => found.getD [] ++ expand lookup fuel after
    | ':' :: '-' :: tail =>
      match tail.dropWhile (· != '\x7d') with
      | _ :: after => found.getD (tail.takeWhile (· != '\x7d')) ++ expand lookup fuel after
      | [] => '$' :: expand lookup fuel ('\x7b' :: rest)
    | _ => '$' :: expand lookup fuel ('\x7b' :: rest)
  | fuel + 1, c :: rest => c :: expand lookup fuel rest

/-- Puts an assignment under its name: a new name goes to the end, an old one keeps its place. -/
def assign (name : String) (value : Option String) :
    List (String × Option String) → List (String × Option String)
  | [] => [(name, value)]
  | (n, v) :: rest => if n == name then (n, value) :: rest else (n, v) :: assign name value rest

/-- The variables of a file. A reference sees the file's own earlier variables before those of the
environment. -/
def read (bindings : List (String × String)) (content : String) : List (String × Option String) :=
  let cs := unifyLines content.toList
  (assignments (cs.length + 1) cs).foldl (fun found a =>
    let lookup name :=
      match found.lookup name with
      | some value => some (value.getD "")
      | none => bindings.lookup name
    assign a.1 (a.2.map fun v => String.ofList (expand lookup v.length v.toList)) found) []

end FluentQuery.EnvFile

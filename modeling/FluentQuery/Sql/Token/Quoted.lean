import FluentQuery.Sql.Lexical

/-!
# Quotes and comments

What is inside quotes or a comment, and what follows. A quote or a comment that is never closed
has no content.

* **`quoted?`** — the content of a quoted text and the rest; a quote does not close after one of
  its escapes;
* **`tagged?`** — a text between dollar signs with a tag;
* **`comment?`** — what follows a comment.
-/

namespace FluentQuery.Sql

/-- What stands before a closing quote, and what follows it. An escape covers the closing quote
and any escape behind it, except that a quote of texts covers only itself. -/
def quoted? (escapes quotes close : List Char) : List Char → Option (List Char × List Char)
  | [] => none
  | [c] => if close == [c] then some ([], []) else none
  | c :: d :: rest =>
    if escapes.contains c && ([d] == close || escapes.contains d)
        && (!quotes.contains c || c == d) then
      (quoted? escapes quotes close rest).map fun (content, after) => (c :: d :: content, after)
    else if close.isPrefixOf (c :: d :: rest) then some ([], (c :: d :: rest).drop close.length)
    else (quoted? escapes quotes close (d :: rest)).map fun (content, after) => (c :: content, after)

/-- What stands before a mark, and what follows it. -/
def until? (close : List Char) : List Char → Option (List Char × List Char)
  | [] => none
  | c :: rest =>
    if close.isPrefixOf (c :: rest) then some ([], (c :: rest).drop close.length)
    else (until? close rest).map fun (content, after) => (c :: content, after)

/-- Whether digits are those of a number of a given base. -/
def isNumeral (base : Nat) (cs : List Char) : Bool :=
  cs.all fun c =>
    if base ≤ 10 then '0' ≤ c && c.toNat < '0'.toNat + base
    else c.isDigit || ('a' ≤ c.toLower && c.toLower ≤ 'f')

/-- What a dollar sign starts. -/
inductive Tagged where
  /-- A sign that stands alone. -/
  | mark
  | text (content after : List Char)
  | unclosed

/-- What a dollar sign starts, from the characters behind it. A tag is neither a number nor has it
blanks, and more than the tag follows it. -/
def tagged (cs : List Char) : Tagged :=
  match until? ['$'] cs with
  | none => .mark
  | some (tag, body) =>
    if !tag.isEmpty && (body.isEmpty || tag.all Char.isDigit || tag.any Text.isBlankChar) then .mark
    else
      match until? ('$' :: tag ++ ['$']) body with
      | some (content, after) => .text content after
      | none => .unclosed

/-- What follows the end of a comment. In the middle of a comment another may start, but not where
the first one starts. -/
def comment? (nested : Bool) : Nat → Bool → List Char → Option (List Char)
  | _, _, [] => none
  | _, _, [_] => none
  | depth, middle, c :: d :: rest =>
    if nested && middle && c == '/' && d == '*' then comment? nested (depth + 1) false rest
    else if c == '*' && d == '/' then
      if depth ≤ 1 then some rest else comment? nested (depth - 1) true (d :: rest)
    else comment? nested depth true (d :: rest)

/-- What follows a comment up to the end of its line. -/
def lineComment (cs : List Char) : List Char := cs.dropWhile fun c => c != '\n' && c != '\r'

/-- The number of ends of lines; the two characters of one count once. -/
def countBreaks : List Char → Nat
  | [] => 0
  | '\r' :: '\n' :: rest => countBreaks rest + 1
  | '\r' :: rest => countBreaks rest + 1
  | '\n' :: rest => countBreaks rest + 1
  | _ :: rest => countBreaks rest

end FluentQuery.Sql

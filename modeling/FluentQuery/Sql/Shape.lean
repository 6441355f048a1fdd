import FluentQuery.Sql.Statement
import FluentQuery.Sql.Token.Lexer

/-!
# The outermost shape of a statement

Of custom SQL three facts matter: whether it can be read as a statement at all, whether its
outermost part is a union, an intersection or a difference of two queries, and if not whether its
outermost part has a WHERE of its own. `inspect` answers with one `Inspection`.

Several statements have neither. A semicolon with a comment is a statement of its own. Rules may
refer to each other more deeply than there are tokens, so the depth of the grammar is a multiple
of their number.
-/

namespace FluentQuery.Sql

/-- What is known of custom SQL. -/
inductive Inspection where
  | unparsed
  | setOperation
  | single (hasWhere : Bool)
  deriving DecidableEq, Inhabited

/-- How deeply rules may refer to each other while so many tokens are read. -/
def depthFor (count : Nat) : Nat := 16 * count + 100

/-- The node of the tokens of one statement, all of which must be taken. -/
def readStatement (d : Dialect) (ts : List Token) : Option (Option Node) :=
  match (grammar d (depthFor ts.length)).statement.run { rest := ts } with
  | some (found, after) => if after.rest.isEmpty then some found else none
  | none => none

/-- The tokens of each statement. A semicolon parts statements where something follows it, and is
a statement of its own where it has a comment. -/
def statements : List Token → List (List Token)
  | [] => [[]]
  | t :: ts =>
    if t.kind == .mark ";" then
      let own := if t.commented then [[t]] else []
      if ts.isEmpty then [] :: own else [] :: (own ++ statements ts)
    else
      match statements ts with
      | first :: more => (t :: first) :: more
      | [] => [[t]]

/-- The outermost shape of custom SQL. -/
def inspect (d : Dialect) (s : String) : Inspection :=
  match tokens? d s with
  | none => .unparsed
  | some ts =>
    match (statements ts).mapM (readStatement d) with
    | none => .unparsed
    | some [] => .unparsed
    | some [none] => .unparsed
    | some [some n] => if n.form == .setOperation then .setOperation else .single (n.has "where")
    | some (none :: _) => .unparsed
    | some _ => .single false

/-- Whether a text has a word in any case of its letters; `before` is the character in front. -/
def hasWord (word : List Char) : Option Char → List Char → Bool
  | _, [] => false
  | before, c :: rest =>
    let boundary := match before with
      | none => true
      | some b => !Text.isWordChar b
    let here := (c :: rest).take word.length
    let after := ((c :: rest).drop word.length).head?
    let ends := match after with
      | none => true
      | some a => !Text.isWordChar a
    (boundary && ends && here.map Char.toUpper == word) || hasWord word (some c) rest

/-- Whether a text has the word WHERE anywhere, in any case of its letters. -/
def mentionsWhere (s : String) : Bool := hasWord "WHERE".toList none s.toList

end FluentQuery.Sql

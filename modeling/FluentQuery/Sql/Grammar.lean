import FluentQuery.Sql.Node

/-!
# Readers of tokens

A reader takes tokens from the front of a list, may look back at those it has taken, and fails
where a statement is wrong. A reader that finds nothing of its own answers nothing and takes
nothing.

* **`Grammar`** — the rules that refer to each other in a circle, as one record of readers; every
  other rule reaches them through the record that it runs with;
* **`Reader`** — a reader with a grammar at hand;
* **`items`**, **`wrapped`**, **`loop`**, **`attempt`** — lists with commas, parentheses,
  repetition, and trying what may fail.
-/

namespace FluentQuery.Sql

/-- A place among the tokens of a statement. -/
structure Cursor where
  /-- The tokens taken so far, the latest first. -/
  before : List Token := []
  rest : List Token
  /-- Whether the word for the row above is a keyword. -/
  prior : Bool := false
  deriving Inhabited

/-- A reader without a grammar. -/
abbrev Parse (α : Type) := StateT Cursor Option α

/-- Where a query is read. -/
structure QueryPlace where
  /-- It may be in parentheses. -/
  nested : Bool := false
  /-- It may be a table. -/
  table : Bool := false
  /-- A second name may follow its parentheses. -/
  named : Bool := true
  /-- Other queries may be joined to it. -/
  sets : Bool := true

/-- Where a type is read. -/
structure TypePlace where
  /-- A name with parentheses may be a function. -/
  call : Bool := false
  /-- It belongs to the definition of a column. -/
  definition : Bool := false
  /-- A name may be a type. -/
  names : Bool := true

/-- Where a table is read. -/
structure TablePlace where
  /-- A list of columns may follow. -/
  columns : Bool := false
  /-- Joins may follow. -/
  joins : Bool := false
  /-- A part of the table may be chosen. -/
  part : Bool := false
  /-- A keyword that is no second name here. -/
  excluded : Option String := none

/-- Where a function is read. -/
structure CallPlace where
  /-- All functions are alike. -/
  anonymous : Bool := false
  /-- Functions without parentheses are possible. -/
  bare : Bool := true
  /-- Any word is the name of a function in front of a parenthesis. -/
  anyName : Bool := false

/-- The rules that refer to each other in a circle. -/
structure Grammar where
  dialect : Dialect
  expression : Parse (Option Node)
  assignment : Parse (Option Node)
  disjunction : Parse (Option Node)
  equality : Parse (Option Node)
  bitwise : Parse (Option Node)
  term : Parse (Option Node)
  factor : Parse (Option Node)
  unary : Parse (Option Node)
  /-- An operand; the argument tells whether any name will do. -/
  operand : Bool → Parse (Option Node)
  /-- An amount of time; the argument tells whether its keyword is needed. -/
  interval : Bool → Parse (Option Node)
  typeName : TypePlace → Parse (Option Node)
  column : Parse (Option Node)
  primary : Parse (Option Node)
  placeholder : Parse (Option Node)
  bracket : Option Node → Parse (Option Node)
  function : CallPlace → Parse (Option Node)
  window : Option Node → Bool → Parse (Option Node)
  query : QueryPlace → Parse (Option Node)
  table : TablePlace → Parse (Option Node)
  join : Option String → Parse (Option Node)
  statement : Parse (Option Node)
  clauses : Option Node → Parse (Option Node)
  setOperations : Option Node → Parse (Option Node)
  order : Option Node → Parse (Option Node)
  limit : Option Node → Parse (Option Node)
  offset : Parse (Option Node)

instance : Inhabited Grammar :=
  ⟨{ dialect := .generic, expression := failure, assignment := failure, disjunction := failure,
     equality := failure, bitwise := failure, term := failure, factor := failure,
     unary := failure, operand := fun _ => failure, interval := fun _ => failure,
     typeName := fun _ => failure, column := failure, primary := failure, placeholder := failure,
     bracket := fun _ => failure, function := fun _ => failure, window := fun _ _ => failure,
     query := fun _ => failure, table := fun _ => failure, join := fun _ => failure,
     statement := failure, clauses := fun _ => failure, setOperations := fun _ => failure,
     order := fun _ => failure, limit := fun _ => failure, offset := failure }⟩

/-- A reader with a grammar. -/
abbrev Reader (α : Type) := ReaderT Grammar Parse α

namespace Reader

/-- The dialect that is read. -/
def dialect : Reader Dialect := return (← read).dialect

/-- An expression with a second name. -/
def expression : Reader (Option Node) := do (← read).expression

/-- An expression with assignments. -/
def assignment : Reader (Option Node) := do (← read).assignment

/-- Conditions joined by OR. -/
def disjunction : Reader (Option Node) := do (← read).disjunction

/-- Comparisons for equality. -/
def equality : Reader (Option Node) := do (← read).equality

/-- Terms joined by operators on bits. -/
def bitwise : Reader (Option Node) := do (← read).bitwise

/-- A sum. -/
def term : Reader (Option Node) := do (← read).term

/-- A product. -/
def factor : Reader (Option Node) := do (← read).factor

/-- An operand with its sign. -/
def unary : Reader (Option Node) := do (← read).unary

/-- An operand. -/
def operand (anyName : Bool := false) : Reader (Option Node) := do (← read).operand anyName

/-- An amount of time. -/
def interval (keyword : Bool := true) : Reader (Option Node) := do (← read).interval keyword

/-- A type. -/
def typeName (place : TypePlace := {}) : Reader (Option Node) := do (← read).typeName place

/-- A column. -/
def column : Reader (Option Node) := do (← read).column

/-- A literal or something in parentheses. -/
def primary : Reader (Option Node) := do (← read).primary

/-- A placeholder of a value. -/
def placeholder : Reader (Option Node) := do (← read).placeholder

/-- What follows a part in brackets. -/
def bracket (n : Option Node) : Reader (Option Node) := do (← read).bracket n

/-- A function. -/
def function (place : CallPlace := {}) : Reader (Option Node) := do (← read).function place

/-- The window of a function. -/
def window (n : Option Node) (named : Bool := false) : Reader (Option Node) := do
  (← read).window n named

/-- A query. -/
def query (place : QueryPlace := {}) : Reader (Option Node) := do (← read).query place

/-- A table. -/
def table (place : TablePlace := {}) : Reader (Option Node) := do (← read).table place

/-- One more table. -/
def join (excluded : Option String := none) : Reader (Option Node) := do (← read).join excluded

/-- A statement. -/
def statement : Reader (Option Node) := do (← read).statement

/-- The clauses of a query. -/
def clauses (n : Option Node) : Reader (Option Node) := do (← read).clauses n

/-- The queries joined to a query. -/
def setOperations (n : Option Node) : Reader (Option Node) := do (← read).setOperations n

/-- An order. -/
def order (n : Option Node := none) : Reader (Option Node) := do (← read).order n

/-- A limit of rows. -/
def limit (n : Option Node := none) : Reader (Option Node) := do (← read).limit n

/-- A number of rows to leave out. -/
def offset : Reader (Option Node) := do (← read).offset

/-- The next token. -/
def peek : Reader (Option Token) := return (← get).rest.head?

/-- What the next token is. -/
def peekKind : Reader (Option Kind) := return (← get).rest.head?.map (·.kind)

/-- The token after the next. -/
def peekSecond : Reader (Option Token) := return ((← get).rest.drop 1).head?

/-- What the token after the next is. -/
def peekSecondKind : Reader (Option Kind) := return ((← get).rest.drop 1).head?.map (·.kind)

/-- The token that was taken last. -/
def latest : Reader (Option Token) := return (← get).before.head?

/-- Takes the next token whatever it is. -/
def advance : Reader Unit := modify fun c =>
  match c.rest with
  | [] => c
  | t :: ts => { c with before := t :: c.before, rest := ts }

/-- Takes a number of tokens. -/
def advanceBy : Nat → Reader Unit
  | 0 => pure ()
  | n + 1 => do
    advance
    advanceBy n

/-- Gives the token that was taken last back. -/
def stepBack : Reader Unit := modify fun c =>
  match c.before with
  | [] => c
  | t :: ts => { c with before := ts, rest := t :: c.rest }

/-- How many tokens have been taken. -/
def index : Reader Nat := return (← get).before.length

/-- Gives back all tokens taken since there were a given number of them. -/
def retreat (count : Nat) : Reader Unit := modify fun c =>
  let back := (c.before.take (c.before.length - count)).reverse
  { c with before := c.before.drop back.length, rest := back ++ c.rest }

/-- Whether the next token is of a class. -/
def isNext (p : Kind → Bool) : Reader Bool := return ((← peekKind).map p).getD false

/-- Takes the next token if it is of a class, and tells. -/
def takeIf (p : Kind → Bool) : Reader Bool := do
  if ← isNext p then
    advance
    return true
  else return false

/-- Takes the next token if it is of a given kind, and tells. -/
def take (k : Kind) : Reader Bool := takeIf (· == k)

/-- Takes a keyword if it comes next, and tells. -/
def takeKeyword (w : String) : Reader Bool := take (.keyword w)

/-- Takes one of several keywords if one comes next, and tells. -/
def takeKeywords (ws : List String) : Reader Bool :=
  takeIf fun k => match k with
    | .keyword w => ws.contains w
    | _ => false

/-- Whether a keyword comes next. -/
def isKeyword (w : String) : Reader Bool := isNext (· == .keyword w)

/-- Takes a mark if it comes next, and tells. -/
def takeMark (m : String) : Reader Bool := take (.mark m)

/-- Takes one of several marks if one comes next, and tells. -/
def takeMarks (ms : List String) : Reader Bool :=
  takeIf fun k => match k with
    | .mark m => ms.contains m
    | _ => false

/-- Whether a mark comes next. -/
def isMark (m : String) : Reader Bool := isNext (· == .mark m)

/-- Whether two given tokens come next. -/
def isPair (first second : Kind) : Reader Bool :=
  return (← peekKind) == some first && (← peekSecondKind) == some second

/-- A reader that is tried only under a condition, and tells. -/
def onlyIf (condition : Bool) (reader : Reader Bool) : Reader Bool :=
  if condition then reader else return false

/-- The first of two readers that tells so; the second is tried only where the first does not. -/
def either (first second : Reader Bool) : Reader Bool := do
  if ← first then return true else second

/-- Takes two given tokens if they come next, and tells. -/
def takePair (first second : Kind) : Reader Bool := do
  if ← isPair first second then
    advance
    advance
    return true
  else return false

/-- Whether a token is a given word in any case of its letters; a text is no word. -/
def isWord (words : List String) (t : Token) : Bool := t.kind != .text && words.contains t.upper

/-- Takes one of several words if one comes next, and tells. -/
def takeWords (words : List String) : Reader Bool := do
  match ← peek with
  | some t =>
    if isWord words t then
      advance
      return true
    else return false
  | none => return false

/-- Takes a word if it comes next, and tells. -/
def takeWord (word : String) : Reader Bool := takeWords [word]

/-- Whether given words come next one after the other. -/
def startWords : List String → List Token → Bool
  | [], _ => true
  | _, [] => false
  | w :: ws, t :: ts => isWord [w] t && startWords ws ts

/-- Takes several words one after the other if they come next, and tells. -/
def takeSequence (words : List String) : Reader Bool := do
  if startWords words (← get).rest then
    advanceBy words.length
    return true
  else return false

/-- Takes a mark, which must come next. -/
def expectMark (m : String) : Reader Unit := do
  if ← takeMark m then pure () else failure

/-- What must be there. -/
def required {α : Type} : Option α → Reader α
  | some a => pure a
  | none => failure

/-- A list that must have an item. -/
def requiredItems {α : Type} (as : List α) : Reader Unit :=
  if as.isEmpty then failure else pure ()

/-- What a reader finds, which must be there. -/
def need {α : Type} (reader : Reader (Option α)) : Reader α := do required (← reader)

/-- Tries a reader; where it fails, nothing is found and nothing is taken. -/
def attempt {α : Type} (reader : Reader (Option α)) : Reader (Option α) := fun g c =>
  match reader g c with
  | some found => some found
  | none => some (none, c)

/-- Repeats a reader while it says so, `n` times at most. -/
def repeatWhile (reader : Reader Bool) : Nat → Reader Unit
  | 0 => pure ()
  | n + 1 => do
    if ← reader then repeatWhile reader n

/-- Repeats a reader while it says so, at most once for each token that is left. -/
def loop (reader : Reader Bool) : Reader Unit := do
  repeatWhile reader ((← get).rest.length + 1)

/-- What is made of a part step by step, `n` times at most. -/
def growUpTo (step : Node → Reader (Option Node)) : Nat → Node → Reader Node
  | 0, a => pure a
  | n + 1, a => do
    match ← step a with
    | some b => growUpTo step n b
    | none => pure a

/-- What is made of a part step by step. -/
def grow (step : Node → Reader (Option Node)) (a : Node) : Reader Node := do
  growUpTo step ((← get).rest.length + 1) a

/-- Items with commas between them, `n` of them at most; an item may be missing. -/
def itemsUpTo {α : Type} (item : Reader (Option α)) : Nat → Reader (List α)
  | 0 => pure []
  | n + 1 => do
    let first ← item
    let more ← if ← takeMark "," then itemsUpTo item n else pure []
    return first.toList ++ more

/-- Items with commas between them; an item may be missing. -/
def items {α : Type} (item : Reader (Option α)) : Reader (List α) := do
  itemsUpTo item ((← get).rest.length + 1)

/-- Something in parentheses. -/
def wrapped {α : Type} (inside : Reader α) : Reader α := do
  expectMark "("
  let found ← inside
  expectMark ")"
  return found

/-- Something in parentheses, which may both be missing. -/
def maybeWrapped {α : Type} (inside : Reader α) : Reader α := do
  if ← takeMark "(" then
    let found ← inside
    expectMark ")"
    return found
  else inside

/-- Takes all tokens that are left. -/
def takeAll : Reader Unit := modify fun c =>
  { c with before := c.rest.reverse ++ c.before, rest := [] }

end Reader

end FluentQuery.Sql

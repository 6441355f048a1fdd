import FluentQuery.Error.Failure

/-!
# Options of an adapter

Options are given as a value that should be a dictionary. Each way of asking for one has its own
complaint about a value that is none.
-/

namespace FluentQuery.Options

/-- Whether a list of characters holds another as a part. -/
def holds (part : List Char) : List Char → Bool
  | [] => part.isEmpty
  | c :: rest => part.isPrefixOf (c :: rest) || holds part rest

/-- Whether options hold a name. -/
def has (options : Value) (name : String) : Except Failure Bool :=
  match options with
  | .dict entries => .ok (Entries.get? (.text name) entries).isSome
  | .list items => .ok (items.any (·.equals (.text name)))
  | .tuple items => .ok (items.any (·.equals (.text name)))
  | .text s => .ok (holds name.toList s.toList)
  | v => .error (.misuse (.notAContainer v.kindName))

/-- The option under a name, which must be there. -/
def required (options : Value) (name : String) : Except Failure Value :=
  match options with
  | .dict entries =>
    match Entries.get? (.text name) entries with
    | some v => .ok v
    | none => .error (.fault (.foreign .key name))
  | v => .error (.misuse (.notIndexedByText v.kindName))

/-- The option under a name, or a default. -/
def optional (options : Value) (name : String) (default : Value) : Except Failure Value :=
  match options with
  | .dict entries => .ok ((Entries.get? (.text name) entries).getD default)
  | v => .error (.misuse (.noMember v.kindName "get"))

end FluentQuery.Options

import FluentQuery.Convert.Instant

/-!
# Fitting a value to a record type

`Schema.fit` converts a value to a record type or lists everything that is wrong with it: fields
in their order of declaration and then columns that are no fields, items and entries in their
order, of an entry the key before the value. Each issue carries the path from the outside in.

A record is strict when it says so; strictness reaches the scalars, lists and dictionaries inside
it, and another record inside decides for itself.
-/

namespace FluentQuery.Schema

/-- A converted value, or what is wrong with the one given. -/
abbrev Fitted := Except (List Issue) Value

/-- A complaint about the value itself. -/
def complain (c : Complaint) : Fitted := .error [⟨[], c⟩]

/-- A scalar conversion as a fit. -/
def fitScalar {α : Type} (wrap : α → Value) (r : Except Complaint α) : Fitted :=
  match r with
  | .ok a => .ok (wrap a)
  | .error c => complain c

/-- A fit seen from one step further out. -/
def Fitted.under (step : String) : Fitted → Fitted
  | .ok v => .ok v
  | .error issues => .error (issues.map (Issue.under step))

/-- Texts as an enumeration with a final "or". -/
def alternatives : List String → String
  | [] => ""
  | [s] => s
  | [s, t] => s ++ " or " ++ t
  | s :: rest => s ++ ", " ++ alternatives rest

/-- The first member whose value a test accepts, at a position counted from `start`. -/
def findMember (name : String) (test : Value → Bool) : Nat → List Value → Option Value
  | _, [] => none
  | start, v :: rest =>
    if test v then some (.member name (memberLabel start) v)
    else findMember name test (start + 1) rest

/-- A value as a member of an enumeration: one that equals a member's value, in an enumeration of
integers also one that converts to it. -/
def fitMember (strict : Bool) (base : EnumBase) (name : String) (values : List Value)
    (v : Value) : Fitted :=
  match v with
  | .member owner _ _ =>
    if owner == name then .ok v else complain (.notAMember (alternatives (values.map Value.quoted)))
  | _ =>
    if strict then complain (.instanceExpected name)
    else
      let found :=
        match base with
        | .text =>
          match v with
          | .text _ => findMember name (·.equals v) 0 values
          | _ => none
        | .integer =>
          match Convert.toInt false v with
          | .ok n => findMember name (·.equals (.int n)) 0 values
          | .error _ => findMember name (·.equals v) 0 values
        | .plain => findMember name (·.equals v) 0 values
      match found with
      | some member => .ok member
      | none => complain (.notAMember (alternatives (values.map Value.quoted)))

/-- The items of a list, each fitted at its index, or all their issues. -/
def fitItems (fit : Value → Fitted) : Nat → List Value → Except (List Issue) (List Value)
  | _, [] => .ok []
  | index, v :: rest =>
    match (fit v).under (intText index), fitItems fit (index + 1) rest with
    | .ok w, .ok ws => .ok (w :: ws)
    | .ok _, .error later => .error later
    | .error issues, .ok _ => .error issues
    | .error issues, .error later => .error (issues ++ later)

/-- The entries of a dictionary, each key and value fitted, or all their issues. -/
def fitEntries (fitKey fitValue : Value → Fitted) :
    Entries → Except (List Issue) (List (Value × Value))
  | [] => .ok []
  | (k, v) :: rest =>
    let key := ((fitKey k).under "[key]").under k.plain
    let value := (fitValue v).under k.plain
    let issues (r : Fitted) : List Issue :=
      match r with
      | .ok _ => []
      | .error e => e
    match key, value, fitEntries fitKey fitValue rest with
    | .ok k', .ok v', .ok tail => .ok ((k', v') :: tail)
    | key, value, .ok _ => .error (issues key ++ issues value)
    | key, value, .error later => .error (issues key ++ issues value ++ later)

/-- The columns of a row that are no fields. -/
def extraColumns (names : List String) (row : Entries) : Entries :=
  row.filter fun e =>
    match e.1 with
    | .text column => !names.contains column
    | _ => true

/-- What a record makes of its extra columns: fields to add and issues. -/
def fitExtra (extra : ExtraColumns) (columns : Entries) : List (String × Value) × List Issue :=
  match extra with
  | .ignore => ([], [])
  | _ =>
    (columns.filterMap fun e =>
        match extra, e.1 with
        | .allow, .text column => some (column, e.2)
        | _, _ => none,
      columns.filterMap fun e =>
        match extra, e.1 with
        | .forbid, .text column => some ⟨[column], .extraForbidden⟩
        | _, .text _ => none
        | _, key => some ⟨[key.plain], .keyNotText⟩)

/-- The entries of a dictionary. -/
def entries? : Value → Option Entries
  | .dict entries => some entries
  | _ => none

/-- The items of a list; a lenient reading takes a tuple too. -/
def items? (strict : Bool) : Value → Option (List Value)
  | .list items => some items
  | .tuple items => if strict then none else some items
  | _ => none

mutual

/-- Converts a value to a type. -/
def fit (strict : Bool) : Schema → Value → Fitted
  | .any, v => .ok v
  | .bool, v => fitScalar .bool (Convert.toBool strict v)
  | .int, v => fitScalar .int (Convert.toInt strict v)
  | .float, v => fitScalar .float (Convert.toFloat strict v)
  | .text, v => fitScalar .text (Convert.toText strict v)
  | .decimal, v => fitScalar .decimal (Convert.toDecimal strict v)
  | .date, v => fitScalar .date (Convert.toDate strict v)
  | .datetime, v => fitScalar .datetime (Convert.toInstant strict v)
  | .anyList, v =>
    match items? strict v with
    | some items => .ok (.list items)
    | none => complain .listExpected
  | .anyDict, v =>
    match entries? v with
    | some entries => .ok (.dict entries)
    | none => complain .dictExpected
  | .optional inner, v =>
    match v with
    | .null => .ok .null
    | v => fit strict inner v
  | .list item, v =>
    match items? strict v with
    | some items => (fitItems (fit strict item) 0 items).map .list
    | none => complain .listExpected
  | .dict key value, v =>
    match entries? v with
    | some entries =>
      (fitEntries (fit strict key) (fit strict value) entries).map fun es =>
        .dict (Entries.ofPairs es)
    | none => complain .dictExpected
  | .enumeration base name values, v => fitMember strict base name values v
  | .atLeast bound inner, v =>
    match fit strict inner v with
    | .ok (.int n) => if n < bound then complain (.belowBound bound) else .ok (.int n)
    | r => r
  | .model name fields extra own, v =>
    match entries? v with
    | none => complain (.modelExpected name)
    | some row =>
      let (found, issues) := fitFields own true row fields
      let (added, wrong) := fitExtra extra (extraColumns (fields.map (·.1)) row)
      match issues ++ wrong with
      | [] => .ok (.record .model name (found ++ added))
      | issues => .error issues
  | .dataclass name fields, v =>
    match entries? v with
    | none => complain (.dataclassExpected name)
    | some row =>
      match fitFields false true row fields with
      | (found, []) => .ok (.record .dataclass name found)
      | (_, issues) => .error issues
  | .typedDict _ fields total, v =>
    match entries? v with
    | none => complain .dictExpected
    | some row =>
      match fitFields false total row fields with
      | (found, []) => .ok (.dict (found.map fun f => (Value.text f.1, f.2)))
      | (_, issues) => .error issues

/-- Fits the fields of a record in order: the fields found and the issues met. A field without a
column takes its default, or is missing if one is required. -/
def fitFields (strict required : Bool) (row : Entries) :
    List (String × Schema × Option Value) → List (String × Value) × List Issue
  | [] => ([], [])
  | (name, schema, default) :: rest =>
    let (found, issues) := fitFields strict required row rest
    match row.get? (.text name) with
    | some v =>
      match (fit strict schema v).under name with
      | .ok w => ((name, w) :: found, issues)
      | .error here => (found, here ++ issues)
    | none =>
      match default with
      | some d => ((name, d) :: found, issues)
      | none => if required then (found, ⟨[name], .missing⟩ :: issues) else (found, issues)

end

end FluentQuery.Schema

import FluentQuery.Value.Printed

/-!
# Record types

A record type says what a row is decoded into: a scalar, an optional, list or dictionary of
other types, an enumeration, or a record with named fields. Scalar types are those whose values
stand for themselves; a row of one column decodes into one of them.
-/

namespace FluentQuery

/-- What a record does with columns that are none of its fields. -/
inductive ExtraColumns where
  | ignore
  | forbid
  | allow
  deriving DecidableEq, Inhabited

/-- What the members of an enumeration are besides members. -/
inductive EnumBase where
  | text
  | integer
  | plain
  deriving DecidableEq, Inhabited

/-- A record type. A field is a name, a type and possibly a default. -/
inductive Schema where
  | any
  | bool
  | int
  | float
  | text
  | decimal
  | date
  | datetime
  | anyList
  | anyDict
  | optional (inner : Schema)
  | list (item : Schema)
  | dict (key value : Schema)
  | enumeration (base : EnumBase) (name : String) (values : List Value)
  | atLeast (bound : Int) (inner : Schema)
  | model (name : String) (fields : List (String × Schema × Option Value)) (extra : ExtraColumns)
      (strict : Bool)
  | dataclass (name : String) (fields : List (String × Schema × Option Value))
  | typedDict (name : String) (fields : List (String × Schema × Option Value)) (total : Bool)
  deriving Inhabited

namespace Schema

/-- Whether a row of this type is the value of its only column. -/
def isScalar : Schema → Bool
  | .bool | .int | .float | .text | .decimal | .date | .datetime => true
  | .enumeration .text _ _ | .enumeration .integer _ _ => true
  | _ => false

/-- The name of a type without its parameters. -/
def name : Schema → String
  | .any => "Any"
  | .bool => "bool"
  | .int => "int"
  | .float => "float"
  | .text => "str"
  | .decimal => "Decimal"
  | .date => "date"
  | .datetime => "datetime"
  | .anyList => "list"
  | .anyDict => "dict"
  | .optional _ => "Optional"
  | .list _ => "List"
  | .dict _ _ => "Dict"
  | .enumeration _ name _ => name
  | .atLeast _ inner => inner.name
  | .model name _ _ _ => name
  | .dataclass name _ => name
  | .typedDict name _ _ => name

/-- A type as it stands inside another one's brackets. -/
def fullName : Schema → String
  | .optional inner => "Union[" ++ inner.fullName ++ ", NoneType]"
  | .list item => "List[" ++ item.fullName ++ "]"
  | .dict key value => "Dict[" ++ key.fullName ++ ", " ++ value.fullName ++ "]"
  | .atLeast _ inner => inner.fullName
  | schema => schema.name

/-- The label of the member of an enumeration at a position. -/
def memberLabel (position : Nat) : String := "M" ++ intText position

end Schema

end FluentQuery

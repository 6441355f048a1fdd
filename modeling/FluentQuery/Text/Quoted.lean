import FluentQuery.Text.Printable

/-!
# Quoted text

A text is shown between single quotes, or between double quotes when it holds a single quote and
no double one. A backslash, the quote in use and the three usual control characters are escaped
by a backslash, any other character that is not printable by its code point: two hexadecimal
digits after `x`, four after `u`, eight after `U`. Raw bytes are shown the same way with a `b` in
front, every byte outside printable ASCII by two digits.
-/

namespace FluentQuery.Text

/-- The quote in which a text is shown. -/
def quoteFor (cs : List Char) : Char :=
  if cs.contains '\'' && !cs.contains '"' then '"' else '\''

/-- A number in hexadecimal digits with zeros in front up to a width. -/
def hexDigits (width n : Nat) : List Char :=
  let digits := Nat.toDigits 16 n
  List.replicate (width - digits.length) '0' ++ digits

/-- A character by its code point. -/
def escapeCode (c : Char) : List Char :=
  if c.toNat < 0x100 then ['\\', 'x'] ++ hexDigits 2 c.toNat
  else if c.toNat < 0x10000 then ['\\', 'u'] ++ hexDigits 4 c.toNat
  else ['\\', 'U'] ++ hexDigits 8 c.toNat

/-- A character inside quotes, where `shown` says which ones stand for themselves. -/
def escapeChar (shown : Char → Bool) (quote c : Char) : List Char :=
  if c == quote || c == '\\' then ['\\', c]
  else if c == '\n' then ['\\', 'n']
  else if c == '\r' then ['\\', 'r']
  else if c == '\t' then ['\\', 't']
  else if shown c then [c]
  else escapeCode c

/-- Characters between quotes. -/
def quoteWith (shown : Char → Bool) (cs : List Char) : List Char :=
  let quote := quoteFor cs
  quote :: cs.flatMap (escapeChar shown quote) ++ [quote]

/-- A text between quotes. -/
def quoted (s : String) : String := String.ofList (quoteWith isPrintable s.toList)

/-- Bytes between quotes, with a `b` in front. -/
def quotedBytes (bytes : List UInt8) : String :=
  String.ofList ('b' :: quoteWith (fun c => 0x20 ≤ c.toNat && c.toNat < 0x7F)
    (bytes.map fun b => Char.ofNat b.toNat))

end FluentQuery.Text

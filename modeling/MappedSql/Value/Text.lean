import MappedSql.Decimal.Shortest
import MappedSql.Value.Basic

/- The text of a value, in its two forms.

   `Value.json` is the compact JSON text: no spaces, fields in order, and in
   strings only the quote, the backslash and the control characters escaped.
   `Value.inline` is what a value becomes when it is written into a statement: null
   is nothing, a text is itself, and the rest is JSON. -/
namespace MappedSql

/-- Doubles have all their places while the first digit stands at an exponent of -5 to 15. -/
def Number.layout : Decimal.Layout := ⟨-5, 15, true, true⟩

def Number.text : Number → String
  | .int i => toString i
  | .float x => Decimal.text Number.layout x

namespace Value

/-- A character of a JSON string. Four hexadecimal digits stand for a control character
without a short form. -/
def escapedChar (c : Char) : List Char :=
  if c = '"' then ['\\', '"']
  else if c = '\\' then ['\\', '\\']
  else if c.toNat = 0x8 then ['\\', 'b']
  else if c.toNat = 0x9 then ['\\', 't']
  else if c.toNat = 0xa then ['\\', 'n']
  else if c.toNat = 0xc then ['\\', 'f']
  else if c.toNat = 0xd then ['\\', 'r']
  else if c.toNat < 0x20 then
    ['\\', 'u', '0', '0', Nat.digitChar (c.toNat / 16), Nat.digitChar (c.toNat % 16)]
  else [c]

def quoted (s : String) : String :=
  "\"" ++ String.ofList (s.toList.flatMap escapedChar) ++ "\""

mutual

def json : Value → String
  | .null => "null"
  | .bool b => if b then "true" else "false"
  | .num n => n.text
  | .str s => quoted s
  | .arr items => "[" ++ jsonItems items ++ "]"
  | .obj fields => "\x7b" ++ jsonFields fields ++ "\x7d"

/-- The items of a list, with commas between them. -/
def jsonItems : List Value → String
  | [] => ""
  | [v] => json v
  | v :: rest => json v ++ "," ++ jsonItems rest

/-- The fields of an object, with commas between them. -/
def jsonFields : List (String × Value) → String
  | [] => ""
  | [(k, v)] => quoted k ++ ":" ++ json v
  | (k, v) :: rest => quoted k ++ ":" ++ json v ++ "," ++ jsonFields rest

end

def inline : Value → String
  | .null => ""
  | .str s => s
  | v => json v

end Value

end MappedSql

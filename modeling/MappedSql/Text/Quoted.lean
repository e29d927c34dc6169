import MappedSql.Text.Visible

/- Text in quotes for a reader.

   The quote, the backslash and the blanks with a name of their own are escaped with a
   backslash; other characters that do not show stand as their code point in braces. -/
namespace MappedSql.Text

def debugChar (c : Char) : List Char :=
  if c = '"' then ['\\', '"']
  else if c = '\\' then ['\\', '\\']
  else if c = '\n' then ['\\', 'n']
  else if c = '\r' then ['\\', 'r']
  else if c = '\t' then ['\\', 't']
  else if c.toNat = 0 then ['\\', '0']
  else if isVisible c then [c]
  else ['\\', 'u', '\x7b'] ++ Nat.toDigits 16 c.toNat ++ ['\x7d']

def debugQuoted (s : String) : String := "\"" ++ String.ofList (s.toList.flatMap debugChar) ++ "\""

end MappedSql.Text

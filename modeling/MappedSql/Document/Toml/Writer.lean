import MappedSql.Document.Toml.Reader

/- Keys and texts as TOML writes them.

   A key without quotes where it can be, else in double quotes. A text is in double
   quotes if nothing in it but tabs has to be escaped, else in single quotes if those can
   hold it, then in three quotes of either kind, and with other escapes as the last
   resort. -/
namespace MappedSql.Toml

/-- The length of the longest run of a character. -/
def longestRun (c : Char) (cs : List Char) : Nat :=
  (cs.foldl (fun (best, now) d => if d = c then (max best (now + 1), now + 1) else (best, 0))
    (0, 0)).1

/-- Whether only an escape can stand for one of the characters. -/
def hasControl (cs : List Char) : Bool := cs.any fun c => isControl c && c != '\n'

def hexDigit (n : Nat) : Char := (Nat.digitChar n).toUpper

/-- The escape of a character that does not stand inside double quotes by itself. -/
def escape (c : Char) : Option (List Char) :=
  if c = '\x08' then some ['\\', 'b']
  else if c = '\t' then some ['\\', 't']
  else if c = '\n' then some ['\\', 'n']
  else if c = '\x0c' then some ['\\', 'f']
  else if c = '\r' then some ['\\', 'r']
  else if c = '\\' then some ['\\', '\\']
  else if isControl c then
    some ['\\', 'u', '0', '0', hexDigit (c.toNat / 16), hexDigit (c.toNat % 16)]
  else none

/-- The characters inside double quotes, over several lines if `wide`. Of `allowed` quotes in a row
none is escaped, and the count begins anew after every escape; `quotes` are counted so far. -/
def escaped (wide : Bool) (allowed quotes : Nat) : List Char → List Char
  | [] => []
  | c :: rest =>
    if c = '"' then
      if quotes < allowed then '"' :: escaped wide allowed (quotes + 1) rest
      else '\\' :: '"' :: escaped wide allowed 0 rest
    else if wide && c == '\n' then '\n' :: escaped wide allowed 0 rest
    else (escape c).getD [c] ++ escaped wide allowed 0 rest

def between (mark : String) (cs : List Char) : String := mark ++ String.ofList cs ++ mark

/-- What stands between marks that take several lines: the text, on a line of its own if it has
several. -/
def onLines (cs written : List Char) : List Char :=
  if cs.contains '\n' then '\n' :: written else written

/-- A text in double quotes on one line. -/
def inQuotes (cs : List Char) : String := between "\"" (escaped false 0 0 cs)

def inWideQuotes (cs : List Char) : String :=
  between "\"\"\"" (onLines cs (escaped true 2 0 cs))

/-- Whether a text needs no escape inside double quotes. -/
def isPlain (cs : List Char) : Bool :=
  !hasControl cs && !cs.contains '\\' && !cs.contains '"' && !cs.contains '\n'

/-- Whether a text can stand in single quotes. -/
def isLiteral (cs : List Char) : Bool :=
  !hasControl cs && !cs.contains '\'' && !cs.contains '\n'

def writeText (s : String) : String :=
  let cs := s.toList
  if isPlain cs then inQuotes cs
  else if isLiteral cs then between "'" cs
  else if !hasControl cs && !cs.contains '\\' && longestRun '"' cs ≤ 2 then inWideQuotes cs
  else if !hasControl cs && longestRun '\'' cs ≤ 2 then between "'''" (onLines cs cs)
  else if cs.contains '\n' then inWideQuotes cs
  else inQuotes cs

def writeKey (s : String) : String :=
  let cs := s.toList
  if !cs.isEmpty && cs.all isBare then s
  else if !isPlain cs && isLiteral cs then between "'" cs
  else inQuotes cs

end MappedSql.Toml

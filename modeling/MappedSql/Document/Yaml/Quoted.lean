import MappedSql.Document.Yaml.Gap
import MappedSql.Value.Reader

/- Scalars in quotes.

   Between single quotes a quote is written twice. Between double quotes a backslash
   begins an escape, and one at the end of a line joins the next line to it. No mark of a
   document stands at the start of a line, and by the later version of the format no
   line stands further left than what is around the scalar. -/
namespace MappedSql.Yaml

/-- The character of an escape of one letter. -/
def shortEscape? : Char → Option Char
  | '0' => some '\x00'
  | 'a' => some '\x07'
  | 'b' => some '\x08'
  | 't' => some '\t'
  | '\t' => some '\t'
  | 'n' => some '\n'
  | 'v' => some '\x0b'
  | 'f' => some '\x0c'
  | 'r' => some '\r'
  | 'e' => some '\x1b'
  | ' ' => some ' '
  | '"' => some '"'
  | '/' => some '/'
  | '\\' => some '\\'
  | 'N' => some '\u0085'
  | '_' => some '\u00a0'
  | 'L' => some '\u2028'
  | 'P' => some '\u2029'
  | _ => none

/-- The character whose number the first `n` hexadecimal digits write. -/
def numbered? (n : Nat) (cs : List Char) : Option Char :=
  let digits := cs.take n
  if digits.length < n then none
  else
    (digits.foldlM (fun v c => (Json.hexValue? c).map (v * 16 + ·)) 0).bind fun v =>
      if h : v.isValidChar then some (Char.ofNatAux v h) else none

/-- The character of an escape, and how many characters it takes after the backslash. -/
def escape? : List Char → Option (Char × Nat)
  | 'x' :: rest => (numbered? 2 rest).map (·, 3)
  | 'u' :: rest => (numbered? 4 rest).map (·, 5)
  | 'U' :: rest => (numbered? 8 rest).map (·, 9)
  | c :: _ => (shortEscape? c).map (·, 1)
  | [] => none

/-- Scalars in quotes, by their quote. -/
inductive Quote where
  | single
  | double
  deriving DecidableEq, Repr

namespace Quote

def sign : Quote → Char
  | .single => '\''
  | .double => '"'

/-- The characters up to a gap or the closing quote, after those in reverse that have been read. A
backslash at the end of a line begins a gap. -/
def word? (q : Quote) (depth : Nat) (read : List Char) (p : Place) :
    Option (List Char × Gap × Place) :=
  match depth with
  | 0 => none
  | depth + 1 =>
    match p.rest with
    | [] => some (read, .none, p)
    | c :: rest =>
      if !p.isInk c then some (read, .none, p)
      else if c = q.sign then
        if q = .single ∧ rest.head? = some c then q.word? depth (c :: read) (p.advance 2)
        else some (read, .none, p)
      else if q = .double ∧ c = '\\' then
        if rest.head?.any p.isBreak then some (read, .joined [], p.advance 2)
        else (escape? rest).bind fun (e, n) => q.word? depth (e :: read) (p.advance (n + 1))
      else q.word? depth (c :: read) p.step

/-- What a tab comes to that stands where lines are indented. -/
def atTab? (p : Place) : Option Place :=
  match p.version with
  | .v11 => some p.step
  | .v12 => none

/-- The scalar that goes on here with a word, and the place after its closing quote. -/
def words? (q : Quote) (depth : Nat) (indent : Int) (read : List Char) (p : Place) :
    Option (String × Place) :=
  match depth with
  | 0 => none
  | depth + 1 =>
    if p.rest.isEmpty || p.atMark || p.version == .v12 && decide (p.column < indent) then none
    else do
      let (read, gap, p) ← q.word? (p.rest.length + 1) read p
      if p.startsWith (· == q.sign) then return (String.ofList read.reverse, p.step)
      else
        let (gap, p) ← gap.read? (p.rest.length + 1) indent atTab? p
        q.words? depth indent (gap.folded ++ read) p

/-- The scalar whose opening quote stands here, and the place after its closing quote. -/
def read? (q : Quote) (indent : Int) (p : Place) : Option (String × Place) :=
  q.words? (p.rest.length + 1) indent [] p.step

end Quote

end MappedSql.Yaml

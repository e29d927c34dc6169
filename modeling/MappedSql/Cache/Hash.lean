import MappedSql.Value.Basic

/- The hash of a component of a key.

   The bytes of a value are hashed by SipHash with one round a word and three rounds
   at the end, both halves of its key zero. The bytes tell values apart: a tag for the
   sort of value, lengths before the members of lists and objects, and a closing byte
   after texts. -/
namespace MappedSql.Cache

namespace SipHash

/-- The four words of the state. -/
structure State where
  v0 : UInt64
  v1 : UInt64
  v2 : UInt64
  v3 : UInt64
  deriving DecidableEq, Repr

def State.initial : State :=
  ⟨0x736f6d6570736575, 0x646f72616e646f6d, 0x6c7967656e657261, 0x7465646279746573⟩

/-- The word with its bits moved `n` places up, those at the top coming in below. -/
def rotateLeft (x : UInt64) (n : UInt64) : UInt64 := (x <<< n) ||| (x >>> (64 - n))

def State.round (s : State) : State :=
  let v0 := s.v0 + s.v1
  let v1 := rotateLeft s.v1 13 ^^^ v0
  let v0 := rotateLeft v0 32
  let v2 := s.v2 + s.v3
  let v3 := rotateLeft s.v3 16 ^^^ v2
  let v0 := v0 + v3
  let v3 := rotateLeft v3 21 ^^^ v0
  let v2 := v2 + v1
  let v1 := rotateLeft v1 17 ^^^ v2
  let v2 := rotateLeft v2 32
  ⟨v0, v1, v2, v3⟩

/-- The state after a word of the message. -/
def State.absorb (s : State) (m : UInt64) : State :=
  let s := State.round { s with v3 := s.v3 ^^^ m }
  { s with v0 := s.v0 ^^^ m }

/-- The hash of a state after its last word. -/
def State.finish (s : State) : UInt64 :=
  let s := State.round (State.round (State.round { s with v2 := s.v2 ^^^ 0xff }))
  s.v0 ^^^ s.v1 ^^^ s.v2 ^^^ s.v3

/-- The word of at most eight bytes, the lowest first. -/
def word (bytes : List UInt8) : UInt64 :=
  bytes.foldr (fun b w => (w <<< 8) ||| b.toUInt64) 0

/-- The state after a message; the last word holds the bytes left over and the length. -/
def State.absorbAll (length : Nat) (s : State) : List UInt8 → State
  | b0 :: b1 :: b2 :: b3 :: b4 :: b5 :: b6 :: b7 :: rest =>
    State.absorbAll length (s.absorb (word [b0, b1, b2, b3, b4, b5, b6, b7])) rest
  | rest => s.absorb (word rest ||| (UInt64.ofNat length <<< 56))

def hash (bytes : List UInt8) : UInt64 := (State.initial.absorbAll bytes.length bytes).finish

end SipHash

/-- The eight bytes of a word, the lowest first. -/
def wordBytes (w : UInt64) : List UInt8 :=
  (List.range 8).map fun i => (w >>> UInt64.ofNat (8 * i)).toUInt8

/-- The bytes of a text, and a byte that no text has. -/
def textBytes (s : String) : List UInt8 := s.toUTF8.toList ++ [0xff]

/-- The word of a number. A whole number wraps at 64 bits, a double gives its bits. -/
def numberWord : Number → UInt64
  | .int i => UInt64.ofInt i
  | .float x => x.toBits

mutual

def bytes : Value → List UInt8
  | .null => [0]
  | .bool b => [1, if b then 1 else 0]
  | .num n => 2 :: wordBytes (numberWord n)
  | .str s => 3 :: textBytes s
  | .arr items => 4 :: wordBytes (UInt64.ofNat items.length) ++ itemBytes items
  | .obj fields => 5 :: wordBytes (UInt64.ofNat fields.length) ++ fieldBytes fields

/-- The bytes of the items of a list. -/
def itemBytes : List Value → List UInt8
  | [] => []
  | v :: rest => bytes v ++ itemBytes rest

/-- The bytes of the fields of an object. -/
def fieldBytes : List (String × Value) → List UInt8
  | [] => []
  | (k, v) :: rest => textBytes k ++ bytes v ++ fieldBytes rest

end

/-- The hash of a component; that of null is one. -/
def componentHash : Value → UInt64
  | .null => 1
  | v => SipHash.hash (bytes v)

end MappedSql.Cache

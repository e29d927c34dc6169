import MappedSql.Document.Basic
import MappedSql.Document.Yaml.Lexer
import MappedSql.Text.Split

/- Nodes of a YAML text.

   Tokens nest to nodes: scalars, lists, and maps whose keys are nodes too. A node can have
   an anchor and a tag, and an alias stands for a node that has an anchor. Every call of a
   reader takes a unit of the depth that the number of tokens allows; nodes never nest
   deeper than that. -/
namespace MappedSql.Yaml

/-- What is said of a node before the node. -/
structure Properties where
  /-- How many anchors stand before that of the node. -/
  anchor : Option Nat
  tag : Option Tag
  deriving DecidableEq, Repr

namespace Properties

def none : Properties := ⟨.none, .none⟩

end Properties

/-- A node of a text. -/
inductive Node where
  | scalar (p : Properties) (style : Style) (text : String)
  | list (p : Properties) (items : List Node)
  | map (p : Properties) (entries : List (Node × Node))
  | alias (number : Nat)

namespace Node

def missing (v : Version) : Node :=
  .scalar .none .plain <|
    match v with
    | .v11 => ""
    | .v12 => "~"

end Node

/-- How far the reader of nodes has come. -/
structure Reading where
  version : Version
  tokens : List Token
  handles : List (String × Option String)
  numbers : List (String × Nat)
  anchors : Nat
  /-- Which anchors the numbers stand for, the last first. -/
  meant : List (Nat × Nat)

/-- A reader of nodes. -/
abbrev Reader := StateT Reading Option

namespace Reader

def fail {α : Type} : Reader α := fun _ => none

def version : Reader Version := return (← get).version

def peek? : Reader (Option Token) := return (← get).tokens.head?

/-- Whether the next token is one of these. -/
def sees (ts : List Token) : Reader Bool := return (← peek?).any ts.contains

def skip : Reader Unit := modify fun r => { r with tokens := r.tokens.tail }

/-- The start of the names of the tags that every document knows. -/
def standardStart : List Char := "tag:yaml.org,2002:".toList

/-- What is said by the full name of a tag. -/
def tagOf (name : List Char) : Tag :=
  match Text.dropPiece? standardStart name, name with
  | some rest, _ => .standard (String.ofList rest)
  | none, ['!'] => .own "!"
  | none, '!' :: rest => .own (String.ofList rest)
  | none, _ => .other

def isDeclared (handle : String) : Bool :=
  handle.length ≥ 2 && handle.toList.getLast? == some '!'

/-- What a tag says. By the earlier version of the format the name goes on where the handle ends;
by the later one the handle alone makes it one that every document knows. -/
def tag (t : TagName) : Reader Tag := fun r =>
  let declared := r.handles.lookup t.handle
  match r.version with
  | .v11 => do
    let start ← if t.handle.isEmpty then pure (some "") else match t.handle, declared with
      | _, some start => pure start
      | "!", none => pure (some "!")
      | "!!", none => pure (some (String.ofList standardStart))
      | _, none => none
    match start, t.suffix with
    | some start, some suffix => return (tagOf (start.toList ++ suffix.toList), r)
    | _, _ => return (.other, r)
  | .v12 => do
    let start ← match declared with
      | some start => pure start
      | none =>
        if t.handle = "!!" then pure (some (String.ofList standardStart))
        else if isDeclared t.handle then none
        else pure (some t.handle)
    if start = some (String.ofList standardStart) then
      return ((t.suffix.map .standard).getD .other, r)
    else return (.other, r)

/-- The anchor of a name is read. By the earlier version of the format its number is that of the
names before it, so that two names can have one number. -/
def anchor (name : String) : Reader Nat := fun r =>
  let number := match r.version with
    | .v11 => r.numbers.length
    | .v12 => r.anchors
  let numbers := (name, number) :: r.numbers.filter (·.1 != name)
  some (r.anchors, { r with
    numbers := numbers
    anchors := r.anchors + 1
    meant := (number, r.anchors) :: r.meant })

def anchor? : Reader (Option Nat) := do
  match ← peek? with
  | some (.anchor name) => skip; return some (← anchor name)
  | _ => return none

def tag? : Reader (Option Tag) := do
  match ← peek? with
  | some (.tag t) => skip; return some (← tag t)
  | _ => return none

/-- The properties that stand here: an anchor and a tag in either order. -/
def properties : Reader Properties := do
  match ← anchor? with
  | some a => return ⟨some a, ← tag?⟩
  | none =>
    match ← tag? with
    | some t => return ⟨← anchor?, some t⟩
    | none => return .none

def missing : Reader Node := return .missing (← version)

mutual

/-- A node. Outside of brackets it may be a block collection; where `lists` says so, a list whose
dashes stand in the column of what it belongs to. -/
def node (depth : Nat) (block lists : Bool) : Reader Node :=
  match depth with
  | 0 => fail
  | depth + 1 => do
    match ← peek? with
    | some (.alias name) =>
      skip
      match (← get).numbers.lookup name with
      | some number => return .alias number
      | none => fail
    | _ =>
      let p ← properties
      match ← peek? with
      | some (.scalar style text) => skip; return .scalar p style text
      | some .flowList => skip; return .list p (← flowItems depth true)
      | some .flowMap => skip; return .map p (← flowEntries depth true)
      | t =>
        if block && t == some .blockList then
          skip; return .list p (← blockItems depth)
        else if block && t == some .blockMap then
          skip; return .map p (← blockEntries depth)
        else if lists && t == some .item then return .list p (← bareItems depth)
        else if p = .none then fail
        else return .scalar p .plain ""

/-- A node, or none if one of these tokens comes. -/
def nodeUnless (depth : Nat) (ends : List Token) (block lists : Bool) : Reader Node :=
  match depth with
  | 0 => fail
  | depth + 1 => do if ← sees ends then missing else node depth block lists

def blockItems (depth : Nat) : Reader (List Node) :=
  match depth with
  | 0 => fail
  | depth + 1 => do
    match ← peek? with
    | some .blockEnd => skip; return []
    | some .item =>
      skip
      let n ← nodeUnless depth [.item, .blockEnd] true false
      return n :: (← blockItems depth)
    | _ => fail

/-- The items of a list whose dashes stand in the column of what it belongs to. -/
def bareItems (depth : Nat) : Reader (List Node) :=
  match depth with
  | 0 => fail
  | depth + 1 => do
    match ← peek? with
    | some .item =>
      skip
      let n ← nodeUnless depth [.item, .key, .value, .blockEnd] true false
      return n :: (← bareItems depth)
    | _ => return []

/-- The entries of a block map. By the later version of the format a key may be left out. -/
def blockEntries (depth : Nat) : Reader (List (Node × Node)) :=
  match depth with
  | 0 => fail
  | depth + 1 => do
    match ← peek? with
    | some .blockEnd => skip; return []
    | some .key =>
      skip
      let k ← nodeUnless depth [.key, .value, .blockEnd] true true
      let d ← blockValue depth
      return (k, d) :: (← blockEntries depth)
    | some .value =>
      if (← version) = .v11 then fail
      else
        let k ← missing
        let d ← blockValue depth
        return (k, d) :: (← blockEntries depth)
    | _ => fail

/-- The value of an entry of a block map, which may be left out. -/
def blockValue (depth : Nat) : Reader Node :=
  match depth with
  | 0 => fail
  | depth + 1 => do
    if ← sees [.value] then
      skip
      nodeUnless depth [.key, .value, .blockEnd] true true
    else missing

/-- The items up to the closing bracket. One with a key is a map of one entry. -/
def flowItems (depth : Nat) (first : Bool) : Reader (List Node) :=
  match depth with
  | 0 => fail
  | depth + 1 => do
    if ← sees [.flowListEnd] then
      skip; return []
    else
      if !first then
        if ← sees [.comma] then skip else fail
      match ← peek? with
      | some .flowListEnd => skip; return []
      | some .key =>
        skip
        let k ←
          if ← sees [.value, .comma, .flowListEnd] then
            skip; missing
          else node depth false false
        let d ← flowValue depth [.comma, .flowListEnd]
        return .map .none [(k, d)] :: (← flowItems depth false)
      | _ =>
        let n ← node depth false false
        return n :: (← flowItems depth false)

/-- The entries up to the closing brace. A key without a colon has no value. -/
def flowEntries (depth : Nat) (first : Bool) : Reader (List (Node × Node)) :=
  match depth with
  | 0 => fail
  | depth + 1 => do
    if ← sees [.flowMapEnd] then
      skip; return []
    else
      if !first then
        if ← sees [.comma] then skip else fail
      match ← peek? with
      | some .flowMapEnd => skip; return []
      | some .key =>
        skip
        let k ← nodeUnless depth [.value, .comma, .flowMapEnd] false false
        let d ← flowValue depth [.comma, .flowMapEnd]
        return (k, d) :: (← flowEntries depth false)
      | t =>
        if t == some Token.value && (← version) == Version.v12 then
          let k ← missing
          let d ← flowValue depth [.comma, .flowMapEnd]
          return (k, d) :: (← flowEntries depth false)
        else
          let k ← node depth false false
          return (k, ← missing) :: (← flowEntries depth false)

/-- The value of an entry in brackets or braces, which may be left out. -/
def flowValue (depth : Nat) (ends : List Token) : Reader Node :=
  match depth with
  | 0 => fail
  | depth + 1 => do
    if ← sees [.value] then
      skip
      nodeUnless depth ends false false
    else missing

end

/-- The directives before a document: one version at most, which has to be known, and one meaning of
every handle. By the later version of the format only the last one counts, and any version is
known. -/
def directives (depth : Nat) (versioned : Bool) : Reader Unit :=
  match depth with
  | 0 => fail
  | depth + 1 => do
    let v ← version
    match ← peek? with
    | some (.directive (.version major minor)) =>
      if versioned then fail
      if v = .v11 ∧ ¬ (major = 1 ∧ (minor = 1 ∨ minor = 2)) then fail
      skip
      if v = .v12 then modify fun r => { r with handles := [] }
      directives depth true
    | some (.directive (.handle name start)) =>
      let r ← get
      if v = .v11 ∧ (r.handles.lookup name).isSome then fail
      let others := match v with
        | .v11 => r.handles
        | .v12 => []
      set { r with tokens := r.tokens.tail, handles := (name, start) :: others }
      directives depth versioned
    | _ => return ()

/-- Marks of the ends of documents are passed by. -/
def skipEnds (depth : Nat) : Reader Unit :=
  match depth with
  | 0 => fail
  | depth + 1 => do
    if ← sees [.documentEnd] then
      skip
      skipEnds depth
    else return ()

/-- The documents from here on. Only where that is `implied` a document may begin without a
mark. -/
def documents (depth : Nat) (implied : Bool) : Reader (List Node) :=
  match depth with
  | 0 => fail
  | depth + 1 => do
    let v ← version
    if v = .v12 ∨ !implied then skipEnds depth
    match ← peek? with
    | none => return []
    | some t =>
      let isMark := match t with
        | .directive _ => true
        | t => t == .documentStart
      modify fun r => { r with handles := [], numbers := [], meant := [] }
      let n ←
        if isMark || !implied then do
          directives depth false
          if ← sees [.documentStart] then skip else fail
          match ← peek? with
          | none => missing
          | some (.directive _) => missing
          | _ => nodeUnless depth [.documentStart, .documentEnd] true false
        else node depth true false
      let closed ← sees [.documentEnd]
      if closed then skip
      else if v = .v12 then
        match ← peek? with
        | some (.directive _) => fail
        | _ => pure ()
      return n :: (← documents depth (v == Version.v12 && closed))

end Reader

/-- A document and what the numbers of its aliases stand for. -/
structure Contents where
  root : Node
  meant : List (Nat × Nat)

/-- Whether a character may stand in a text; by the later version of the format any may. -/
def Version.isText (v : Version) (c : Char) : Bool :=
  let n := c.toNat
  v == .v12 || c == '\t' || c == '\n' || c == '\r' || n == 0x85 || (0x20 ≤ n && n ≤ 0x7e) ||
    (0xa0 ≤ n && n ≤ 0xfffd) || 0x10000 ≤ n

/-- The text proper: by the earlier version of the format without a mark of byte order before it,
and by the later one up to the first null. -/
def Version.body (v : Version) (cs : List Char) : List Char :=
  match v, cs with
  | .v11, c :: rest => if c = byteOrderMark then rest else cs
  | .v11, [] => []
  | .v12, cs => cs.takeWhile (· != '\x00')

/-- What a text holds: one document, or none at all. -/
def read? (v : Version) (text : String) : Option (Option Contents) := do
  let cs := v.body text.toList
  if !cs.all v.isText then none
  let tokens ← Token.ofText? v cs
  let start : Reading := ⟨v, tokens, [], [], 0, []⟩
  let (nodes, r) ← (Reader.documents (4 * tokens.length + 8) true).run start
  match nodes with
  | [] => return none
  | [n] => return some ⟨n, r.meant⟩
  | _ => none

end MappedSql.Yaml

/- What a statement does and how it is prepared. -/
namespace MappedSql

/-- What a statement does. -/
inductive Command where
  | unknown
  | insert
  | update
  | delete
  | select
  deriving DecidableEq, Repr

namespace Command

def all : List Command := [.unknown, .insert, .update, .delete, .select]

def keyword : Command → String
  | .unknown => "unknown"
  | .insert => "insert"
  | .update => "update"
  | .delete => "delete"
  | .select => "select"

def name : Command → String
  | .unknown => "UNKNOWN"
  | .insert => "INSERT"
  | .update => "UPDATE"
  | .delete => "DELETE"
  | .select => "SELECT"

/-- Whether the command reads and does not write. -/
def isSelect (c : Command) : Bool := c == .select

def ofKeyword? (s : String) : Option Command := all.find? (·.keyword == s)

theorem mem_all (c : Command) : c ∈ all := by cases c <;> decide

theorem ofKeyword?_keyword (c : Command) : ofKeyword? c.keyword = some c := by
  cases c <;> decide

/-- A text that names no command, its ASCII letters lowered. -/
structure Unknown where
  text : String
  deriving DecidableEq, Repr

def Unknown.message (u : Unknown) : String := s!"unknown command type '{u.text}'"

/-- The command that a text names in any case of the ASCII letters. -/
def read (s : String) : Except Unknown Command :=
  let lowered := s.toLower
  match ofKeyword? lowered with
  | some c => .ok c
  | none => .error ⟨lowered⟩

end Command

/-- How a statement is handed to the database. -/
inductive Preparation where
  | direct
  | prepared
  | callable
  deriving DecidableEq, Repr

namespace Preparation

def all : List Preparation := [.direct, .prepared, .callable]

/-- The word for a way of preparation in documents. -/
def keyword : Preparation → String
  | .direct => "statement"
  | .prepared => "prepared"
  | .callable => "callable"

def ofKeyword? (s : String) : Option Preparation := all.find? (·.keyword == s)

theorem mem_all (p : Preparation) : p ∈ all := by cases p <;> decide

theorem ofKeyword?_keyword (p : Preparation) : ofKeyword? p.keyword = some p := by
  cases p <;> decide

end Preparation

end MappedSql

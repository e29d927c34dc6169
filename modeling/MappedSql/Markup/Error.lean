/- Why a text is not markup. -/
namespace MappedSql.Markup

/-- What is wrong with the markup. -/
inductive Fault where
  | otherClosing (wanted found : String)
  | unexpectedClosing (name : String)
  | unclosed (name : String)
  | duplicate (key name : String)
  | unexpectedChar (c : Char) (name : String)
  | unterminatedTag (name : String)
  | noValue (key : String)
  | unquotedValue (key : String)
  | unterminatedValue (key : String)
  | unterminatedEntity (name : String)
  | unknownEntity (name : String)
  | unterminatedSection (closing : String)
  | unexpectedEnd
  | expected (text : String)
  deriving DecidableEq, Repr

def Fault.message : Fault → String
  | .otherClosing wanted found => s!"Expected </{wanted}> but found </{found}>"
  | .unexpectedClosing name => s!"Unexpected closing tag </{name}>"
  | .unclosed name => s!"Unclosed element <{name}>"
  | .duplicate key name => s!"Duplicate attribute '{key}' on <{name}>"
  | .unexpectedChar c name => s!"Unexpected character '{c}' in <{name}>"
  | .unterminatedTag name => s!"Unterminated tag <{name}>"
  | .noValue key => s!"Attribute '{key}' has no value"
  | .unquotedValue key => s!"Attribute '{key}' value must be quoted"
  | .unterminatedValue key => s!"Unterminated value of '{key}'"
  | .unterminatedEntity name => s!"Unterminated entity '&{name}'"
  | .unknownEntity name => s!"Unknown entity '&{name};'"
  | .unterminatedSection closing => s!"Unterminated section, expected '{closing}'"
  | .unexpectedEnd => "Unexpected end of template"
  | .expected text => s!"Expected '{text}'"

/-- A fault, and the line it was found on. -/
structure Error where
  line : Nat
  fault : Fault
  deriving DecidableEq, Repr

end MappedSql.Markup

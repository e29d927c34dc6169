import MappedSql.Value.Basic

/- Why an expression or a path has no value. -/
namespace MappedSql.Expression

/-- What is wrong with the writing of an expression or a path. -/
inductive Fault where
  | unclosedBracket
  | emptySegment
  | unterminatedText
  | badNumber (literal : String)
  | unexpectedChar (c : Char)
  | valueExpected
  | closeParenExpected
  | closeBracketExpected
  | nameExpected
  | trailingInput
  deriving DecidableEq, Repr

def Fault.message : Fault → String
  | .unclosedBracket => "unclosed '['"
  | .emptySegment => "empty path segment"
  | .unterminatedText => "unterminated string literal"
  | .badNumber literal => s!"bad number '{literal}'"
  | .unexpectedChar c => s!"unexpected character '{c}'"
  | .valueExpected => "expected a value"
  | .closeParenExpected => "expected RParen"
  | .closeBracketExpected => "expected RBracket"
  | .nameExpected => "expected a property name"
  | .trailingInput => "unexpected trailing input"

/-- Why there is no value. -/
inductive Error where
  /-- The text is not an expression or not a path. -/
  | malformed (source : String) (fault : Fault)
  /-- A name that is not bound, where the parameter is not an object. -/
  | undefined (name : String)
  /-- A step into a value that has no parts. -/
  | notNavigable (segment : String) (kind : Kind)
  /-- A step into a list by something that is not a position. -/
  | badIndex (text : String)
  | nullCollection (source : String)
  | notIterable (source : String) (kind : Kind)
  | cannotNegate (kind : Kind)
  | cannotOrder (left right : Kind)
  | cannotCombine (left right : Kind)
  | noMethod (method : String) (kind : Kind)
  deriving DecidableEq, Repr

def Error.message : Error → String
  | .malformed source fault => s!"Invalid expression '{source}': {fault.message}"
  | .undefined name => s!"Undefined name '{name}'"
  | .notNavigable segment kind => s!"Cannot read '{segment}' from a {kind.name} value"
  | .badIndex text => s!"Type error: array index '{text}' is not a number"
  | .nullCollection source =>
    s!"Type error: the expression '{source}' evaluated to a null value"
  | .notIterable source kind =>
    s!"Type error: the expression '{source}' evaluated to a {kind.name} which is not iterable"
  | .cannotNegate kind => s!"Type error: cannot negate a {kind.name}"
  | .cannotOrder left right =>
    s!"Type error: cannot order a {left.name} against a {right.name}"
  | .cannotCombine left right =>
    s!"Type error: unsupported operands: {left.name} and {right.name}"
  | .noMethod method kind =>
    s!"Type error: method '{method}()' is not available on a {kind.name} value"

end MappedSql.Expression

import PropTrace.Grammar.Point
import PropTrace.Tree.Node

/-!
Tokens. A token knows the points where it starts and ends, so it can be read anew where the grammar
asks for another reading: a slash may open a regular expression, and an element has names and
strings of its own.
-/
namespace PropTrace.Grammar

inductive TokenKind where
  | endOfText
  /-- A name or a keyword; a name with escapes is never a keyword. -/
  | name (text : String) (escaped : Bool)
  /-- `#name`, without the `#`. -/
  | privateName (text : String)
  | literal (value : LiteralValue)
  | mark (text : String)
  /-- No token can be read here. -/
  | unknown
  deriving DecidableEq, Repr

structure Token where
  kind : TokenKind
  start : Point
  stop : Point
  /-- Whether a line ends between this token and the one before it. -/
  newline : Bool

namespace Token

def isMark (token : Token) (text : String) : Bool := token.kind == .mark text

/-- Whether the token is this keyword. -/
def isWord (token : Token) (text : String) : Bool := token.kind == .name text false

def isName (token : Token) : Bool :=
  match token.kind with
  | .name .. => true
  | _ => false

/-- The keyword a token is, if it is one of those listed. -/
def wordIn (token : Token) (words : List String) : Option String :=
  match token.kind with
  | .name text false => if words.contains text then some text else none
  | _ => none

/-- The mark a token is, if it is one of those listed. -/
def markIn (token : Token) (marks : List String) : Option String :=
  match token.kind with
  | .mark text => if marks.contains text then some text else none
  | _ => none

end Token

/-- Words that are never names. -/
def reservedWords : List String :=
  ["break", "case", "catch", "class", "const", "continue", "debugger", "default", "delete", "do",
    "else", "enum", "export", "extends", "false", "finally", "for", "function", "if", "import",
    "in", "instanceof", "new", "null", "return", "super", "switch", "this", "throw", "true", "try",
    "typeof", "var", "void", "while", "with"]

end PropTrace.Grammar

import PropTrace.Grammar.Parser

/-!
Operators: how tight they bind, and which tokens they are.
-/
namespace PropTrace.Grammar

/-- Operators between two operands, from the loosest to the tightest. -/
def binaryLevels : List (List String) :=
  [["??"], ["||"], ["&&"], ["|"], ["^"], ["&"], ["==", "!=", "===", "!=="],
    ["<", ">", "<=", ">=", "instanceof", "in", "as", "satisfies"], ["<<", ">>", ">>>"],
    ["+", "-"], ["*", "/", "%"], ["**"]]

/-- How tight an operator binds, with 1 for the loosest. -/
def binaryLevel? (text : String) : Option Nat :=
  (binaryLevels.findIdx? (·.contains text)).map (· + 1)

/-- The level of the operators that compare. -/
def comparisonLevel : Nat := 8

/-- The level of the only operator that groups to the right. -/
def powerLevel : Nat := 12

/-- The text of a token that can be an operator. -/
def Token.operatorText? (token : Token) : Option String :=
  match token.kind with
  | .mark text | .name text false => some text
  | _ => none

/-- How tight a token binds as an operator between two operands. -/
def Token.binaryLevel? (token : Token) (allowIn : Bool) : Option Nat := do
  let text ← token.operatorText?
  if text == "in" && !allowIn then none else Grammar.binaryLevel? text

def logicalOperator? (text : String) : Option LogicalOperator :=
  [.or, .and, .coalesce].find? (·.symbol == text)

def assignmentOperator? (text : String) : Option AssignmentOperator :=
  [.assign, .add, .subtract, .multiply, .divide, .remainder, .exponential, .shiftLeft, .shiftRight,
    .shiftRightZeroFill, .bitwiseOr, .bitwiseXor, .bitwiseAnd, .logicalOr, .logicalAnd,
    .logicalCoalesce].find? (·.symbol == text)

/-- Whether a token is an operator before its only operand, `++` and `--` apart. -/
def Token.isUnaryOperator (token : Token) : Bool :=
  (token.markIn ["+", "-", "~", "!"]).isSome || (token.wordIn ["delete", "typeof", "void"]).isSome

/-- Whether a token is `++` or `--`. -/
def Token.isUpdateOperator (token : Token) : Bool := (token.markIn ["++", "--"]).isSome

/-- The keywords that start an expression. -/
def expressionWords : List String :=
  ["class", "delete", "false", "function", "import", "new", "null", "super", "this", "true",
    "typeof", "void"]

/-- Whether an expression can start with a token. -/
def Token.startsExpression (token : Token) : Bool :=
  match token.kind with
  | .literal _ | .privateName _ => true
  | .name text _ => expressionWords.contains text || !reservedWords.contains text
  | .mark text =>
    ["(", "[", "\x7b", "`", "+", "-", "~", "!", "++", "--", "/", "/=", "<", "@"].contains text
  | .endOfText | .unknown => false

end PropTrace.Grammar

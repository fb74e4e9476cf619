import PropTrace.Grammar.Chain

/-!
Expressions with operators, conditions and assignments.
-/
namespace PropTrace.Grammar

open PropTrace.Grammar.Parser

/-- `++` or `--` before its operand. -/
def prefixUpdate (self : Phrases) : Parser (Syntax .expr) := do
  let start ← offset
  discard advance
  let operand ← ofOption (asTarget? (← self .unary))
  return .update operand (← spanFrom start)

/-- An operand that may have `++` or `--` after it. -/
def postfixUpdate (self : Phrases) : Parser (Syntax .expr) := do
  let start ← offset
  let operand ← self .leftHand
  let token ← token
  if token.isUpdateOperator && !token.newline then
    discard advance
    return .update (← ofOption (asTarget? operand)) (← spanFrom start)
  return operand

/-- Whether a token starts an element and is no operator. -/
def opensElement : Parser Bool := do
  let next ← nextToken
  return (← isMark "<") && (next.isName || next.isMark ">")

/-- An operand with the operators before and after it. A power of such an operand needs
parentheses. -/
def unary (self : Phrases) : Parser (Syntax .expr) := do
  let start ← offset
  let token ← token
  if token.isUpdateOperator then return (← prefixUpdate self)
  if token.isUnaryOperator then
    discard advance
    let operand ← self .unary
    require !(← isMark "**")
    return .unary operand (← spanFrom start)
  if token.isWord "await" && (← context).inAsync then
    discard advance
    let operand ← self .unary
    require !(← isMark "**")
    return .await operand (← spanFrom start)
  if ← opensElement then return .jsxExpr (← self .jsx)
  postfixUpdate self

/-- Whether `??` and another logical operator meet without parentheses. -/
def mixesLogical (operator : LogicalOperator) : Syntax .expr → Bool
  | .logical other .. => (operator == .coalesce) != (other == .coalesce)
  | _ => false

/-- Whether an operator is left to an operand outside, because it binds no tighter than the one
before the phrase. -/
def leavesOperator (own level : Nat) : Bool :=
  own < level || (own == level && own != powerLevel)

/-- `as` or `satisfies` with the type after it. -/
def castAfter (self : Phrases) (start : Nat) (value : Syntax .expr) : Parser (Syntax .expr) := do
  let wrapper := if ← isWord "as" then Wrapper.asType else .satisfies
  discard advance
  if !(← eatWord "const") then self .type
  return .wrapped wrapper value (← spanFrom start)

/-- The next operator and its right operand. -/
def binaryStep? (self : Phrases) (start level : Nat) (left : Syntax .expr) :
    Parser (Option (Syntax .expr)) := do
  let token := (← token).asOperator
  let some own := token.binaryLevel? (← context).allowIn | return none
  if leavesOperator own level then return none
  if (token.wordIn ["as", "satisfies"]).isSome then
    if token.newline then return none
    return some (← castAfter self start left)
  reread token
  discard advance
  let right ← self (.binary own)
  let span ← spanFrom start
  match token.operatorText?.bind logicalOperator? with
  | some operator =>
    require !(mixesLogical operator left || mixesLogical operator right)
    return some (.logical operator left right span)
  | none => return some (.binary left right span)

/-- `#name in value` -/
def privateIn (self : Phrases) (level : Nat) : Parser (Syntax .expr) := do
  let start ← offset
  match (← advance).kind with
  | .privateName name =>
    require (level < comparisonLevel && (← context).allowIn)
    word "in"
    let right ← self (.binary comparisonLevel)
    return .privateIn name right (← spanFrom start)
  | _ => fail

/-- An expression whose operators bind tighter than a level. -/
def binary (self : Phrases) (level : Nat) : Parser (Syntax .expr) := do
  let start ← offset
  let first ← match (← token).kind with
    | .privateName _ => privateIn self level
    | _ => self .unary
  iterate (binaryStep? self start level) first

/-- Whether `yield` stands alone before a token. -/
def endsYield (token : Token) : Bool :=
  token.newline || token.kind == .endOfText || token.isWord "in" ||
    (token.markIn [";", "\x7d", ")", "]", ",", ":"]).isSome

def yieldExpression (self : Phrases) : Parser (Syntax .expr) := do
  let start ← offset
  word "yield"
  if endsYield (← token) then return .yield .absent (← spanFrom start)
  discard <| eatMark "*"
  let operand ← self (.assignment true)
  return .yield (.present operand) (← spanFrom start)

/-- The branches of a condition, if a question mark follows it. -/
def conditionalRest (self : Phrases) (returnTypes : Bool) (start : Nat) (test : Syntax .expr) :
    Parser (Syntax .expr) := do
  if !(← eatMark "?") then return test
  let consequent ← within ({ · with allowIn := true }) (self (.assignment false))
  mark ":"
  let alternate ← self (.assignment returnTypes)
  return .conditional test consequent alternate (← spanFrom start)

/-- An array or object pattern with the equals sign after it, if they stand here. -/
def destructured? (self : Phrases) : Parser (Option (Syntax .target)) := do
  if ((← token).markIn ["[", "\x7b"]).isNone then return none
  attemptReading .assignment do
    let target ← self .target
    mark "="
    return target

/-- An arrow function, if one stands here. -/
def anyArrow? (self : Phrases) (returnTypes : Bool) : Parser (Option (Syntax .expr)) := do
  if let some value ← arrowFunction? self returnTypes then return some value
  if let some value ← asyncPlainArrow? self returnTypes then return some value
  if !(← token).isName || !(← nextToken).isMark "=>" then return none
  let start ← offset
  let param ← variableName
  return some (← plainArrow self start false returnTypes param)

/-- An expression without a comma. -/
def assignment (self : Phrases) (returnTypes : Bool) : Parser (Syntax .expr) := do
  let start ← offset
  if (← isWord "yield") && (← context).inGenerator then return (← yieldExpression self)
  if let some value ← anyArrow? self returnTypes then return value
  if let some target ← destructured? self then
    let value ← self (.assignment returnTypes)
    return .assign .assign target value (← spanFrom start)
  let left ← self (.binary 0)
  let token := (← token).asOperator
  match token.operatorText?.bind assignmentOperator? with
  | some operator =>
    let target ← ofOption (asTarget? left)
    reread token
    discard advance
    let value ← self (.assignment returnTypes)
    return .assign operator target value (← spanFrom start)
  | none => conditionalRest self returnTypes start left

end PropTrace.Grammar

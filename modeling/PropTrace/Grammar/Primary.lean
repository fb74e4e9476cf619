import PropTrace.Grammar.Class

/-!
Expressions that start with a token of their own: names, literals, arrays, objects, functions,
classes, templates and whatever stands in parentheses.
-/
namespace PropTrace.Grammar

open PropTrace.Grammar.Parser

/-- An argument or element: an expression, or a spread. -/
def argument (self : Phrases) : Parser (Syntax .argument) := do
  let start ← offset
  if ← eatMark "..." then
    let value ← assignmentOf self
    return .spread value (← spanFrom start)
  return .item (← assignmentOf self)

/-- The arguments of a call. -/
def callArguments (self : Phrases) : Parser (List (Syntax .argument)) := do
  mark "("
  within ({ · with inDecorator := false }) (commaSeparated ")" (argument self))

/-- An array. Its holes leave nothing behind. -/
def arrayLiteral (self : Phrases) : Parser (Syntax .expr) := do
  let start ← offset
  mark "["
  let elements ← within ({ · with inDecorator := false }) <| commaList "]" do
    if ← isMark "," then return none else return some (← argument self)
  return .array (listOf elements) (← spanFrom start)

/-- Moves past `async` before the name of a method: whether it stood here. -/
def eatAsync : Parser Bool := do
  let next ← nextToken
  let isAsync := (← isWord "async") && !next.newline && ((← nextStartsMember) || next.isMark "*")
  if isAsync then discard advance
  return isAsync

/-- A member of an object: a method, a key with a value, a name that is both, or a spread. -/
def property (self : Phrases) : Parser (Syntax .property) := do
  let start ← offset
  if ← eatMark "..." then
    let value ← assignmentOf self
    return .spreadProperty value (← spanFrom start)
  let isAsync ← eatAsync
  let accessor? ← eatAccessor?
  let isGenerator ← eatMark "*"
  let key ← memberKey self
  let value ← if ← startsSignature then
      .functionExpr <$> memberFunction self isAsync isGenerator false accessor?
    else do
      require !(isAsync || accessor?.isSome || isGenerator)
      if ← eatMark ":" then assignmentOf self
      else match key with
        | .plain name _ => do
          require (isVariableName (← context) name.text)
          pure (.identifier name)
        | _ => fail
  return .keyed (optionOf key.computed?) value (← spanFrom start)

def objectLiteral (self : Phrases) : Parser (Syntax .expr) := do
  let start ← offset
  mark "\x7b"
  let properties ← within ({ · with inDecorator := false }) (commaSeparated "\x7d" (property self))
  return .object (listOf properties) (← spanFrom start)

/-- A function that is an expression. Its name belongs to the function itself. -/
def functionExpression (self : Phrases) : Parser (Syntax .expr) := do
  let start ← offset
  let isAsync ← eatWord "async"
  word "function"
  let isGenerator ← eatMark "*"
  let name ← if (← token).isName then
      some <$> within ({ · with inAsync := isAsync, inGenerator := isGenerator }) variableName
    else pure none
  return .functionExpr
    (← functionRest self { kind := .expression, name, isAsync, isGenerator, start })

/-- A class that is an expression, with its decorators. -/
def classExpression (self : Phrases) : Parser (Syntax .expr) := do
  let start ← offset
  let decorators ← decorators self
  return .classExpr (← classRest self .expression decorators start)

def templateLiteral (self : Phrases) : Parser (Syntax .expr) := do
  let start ← offset
  let parts ← templateParts true (innerExpression self)
  return .template (listOf parts) (← spanFrom start)

def parenthesized (self : Phrases) : Parser (Syntax .expr) := do
  let start ← offset
  mark "("
  let inner ← innerExpression self
  mark ")"
  return .wrapped .parentheses inner (← spanFrom start)

def regExpLiteral : Parser (Syntax .expr) := do
  let token ← ofOption (← token).asRegExp?
  reread token
  discard advance
  match token.kind with
  | .literal value => return .literal value ⟨token.start.offset, token.stop.offset⟩
  | _ => fail

/-- An expression that is a keyword, or a variable. -/
def nameExpression : Parser (Syntax .expr) := do
  let start ← offset
  if ← eatWord "this" then return .thisExpr (← spanFrom start)
  if ← eatWord "null" then return .literal .null (← spanFrom start)
  if ← eatWord "true" then return .literal (.boolean true) (← spanFrom start)
  if ← eatWord "false" then return .literal (.boolean false) (← spanFrom start)
  return .identifier (← variableName)

/-- Whether `async` starts a function here. -/
def opensAsyncFunction : Parser Bool := do
  let next ← nextToken
  return (← isWord "async") && next.isWord "function" && !next.newline

/-- An expression that starts with a token of its own. -/
def primary (self : Phrases) : Parser (Syntax .expr) := do
  let token ← token
  match token.kind with
  | .literal value =>
    discard advance
    return .literal value ⟨token.start.offset, token.stop.offset⟩
  | .mark "[" => arrayLiteral self
  | .mark "\x7b" => objectLiteral self
  | .mark "(" => parenthesized self
  | .mark "`" => templateLiteral self
  | .mark "@" => classExpression self
  | .mark "/" | .mark "/=" => regExpLiteral
  | .name "function" false => functionExpression self
  | .name "class" false => classExpression self
  | .name .. => if ← opensAsyncFunction then functionExpression self else nameExpression
  | _ => fail

end PropTrace.Grammar

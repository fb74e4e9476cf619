import PropTrace.Grammar.Module

/-!
Statements.
-/
namespace PropTrace.Grammar

open PropTrace.Grammar.Parser

/-- Whether an `async` function or a generator starts here. -/
def opensSpecialFunction : Parser Bool := do
  return (← opensAsyncFunction) || ((← isWord "function") && (← nextToken).isMark "*")

/-- A statement that is part of another one. It declares nothing for the block around it, but for
plain functions. -/
def substatement (self : Phrases) : Parser (Syntax .statement) := do
  require !(← opensSpecialFunction)
  let statement ← self .statement
  let isDeclaration := match statement with
    | .variableDecl (.variableList .lexical ..) | .classDecl _ => true
    | _ => false
  require !isDeclaration
  return statement

/-- An expression in parentheses after a keyword. -/
def condition (self : Phrases) : Parser (Syntax .expr) := do
  mark "("
  let value ← innerExpression self
  mark ")"
  return value

def block (self : Phrases) : Parser (Syntax .statement) := do
  let start ← offset
  let body ← statements self
  return .block (listOf body) (← spanFrom start)

def ifStatement (self : Phrases) (start : Nat) : Parser (Syntax .statement) := do
  word "if"
  let test ← condition self
  let consequent ← substatement self
  let alternate ← if ← eatWord "else" then some <$> substatement self else pure none
  return .ifElse test consequent (optionOf alternate) (← spanFrom start)

def whileStatement (self : Phrases) (start : Nat) : Parser (Syntax .statement) := do
  word "while"
  let test ← condition self
  let body ← substatement self
  return .whileLoop test body (← spanFrom start)

def doStatement (self : Phrases) (start : Nat) : Parser (Syntax .statement) := do
  word "do"
  let body ← substatement self
  word "while"
  let test ← condition self
  discard <| eatMark ";"
  return .doWhile body test (← spanFrom start)

/-- An expression that may be missing before a mark. -/
def expressionBefore? (self : Phrases) (close : String) : Parser (Option (Syntax .expr)) := do
  if ← isMark close then return none else return some (← innerExpression self)

/-- The rest of a loop with a test and a step. -/
def forRest (self : Phrases) (start : Nat) (head : Option (Syntax .loopHead)) :
    Parser (Syntax .statement) := do
  mark ";"
  let test ← expressionBefore? self ";"
  mark ";"
  let step ← expressionBefore? self ")"
  mark ")"
  let body ← substatement self
  return .forLoop (optionOf head) (optionOf test) (optionOf step) body (← spanFrom start)

/-- The rest of a loop over a collection. Only values can be waited for. -/
def forEachRest (self : Phrases) (start : Nat) (isAwait : Bool) (head : Syntax .loopHead) :
    Parser (Syntax .statement) := do
  let kind ← if !isAwait && (← eatWord "in") then pure .keys
    else do
      word "of"
      pure IterationKind.values
  let collection ← match kind with
    | .keys => innerExpression self
    | .values => assignmentOf self
  mark ")"
  let body ← substatement self
  return .forEach kind head collection body (← spanFrom start)

/-- Whether the words of a loop over a collection stand here. -/
def seesIteration : Parser Bool := return ((← token).wordIn ["of", "in"]).isSome

/-- A loop whose head declares variables. -/
def forVariables (self : Phrases) (start : Nat) (isAwait : Bool) : Parser (Syntax .statement) := do
  let inner ← offset
  let vars ← within ({ · with allowIn := false }) (variableList self)
  let head := Syntax.headVariables (vars.spanning (← spanFrom inner))
  if isAwait || (← seesIteration) then forEachRest self start isAwait head
  else
    require vars.isComplete
    forRest self start (some head)

/-- What a loop over a collection writes to, if its head is a target. `async of` starts an arrow
function unless the loop waits. -/
def iterationTarget? (self : Phrases) (isAwait : Bool) : Parser (Option (Syntax .target)) := do
  if (← isWord "async") && (← nextToken).isWord "of" && !isAwait then return none
  attempt do
    let target ← if ((← token).markIn ["[", "\x7b"]).isSome then self .target
      else ofOption (asTarget? (← within ({ · with allowIn := false }) (self .leftHand)))
    require (← seesIteration)
    return target

def forStatement (self : Phrases) (start : Nat) : Parser (Syntax .statement) := do
  word "for"
  let isAwait ← eatWord "await"
  mark "("
  if ← opensVariables then return (← forVariables self start isAwait)
  match ← iterationTarget? self isAwait with
  | some target => forEachRest self start isAwait (.headTarget target)
  | none =>
    require !isAwait
    if ← isMark ";" then return (← forRest self start none)
    let value ← within ({ · with allowIn := false }) (expressionOf self)
    forRest self start (some (.headExpr value))

/-- `break` or `continue`. -/
def jumpStatement (start : Nat) : Parser (Syntax .statement) := do
  discard advance
  let token ← token
  if token.isPlainName && !token.newline then discard advance
  semicolon
  return .plain (← spanFrom start)

def returnStatement (self : Phrases) (start : Nat) : Parser (Syntax .statement) := do
  word "return"
  require (← context).inFunction
  let token ← token
  let ends := token.newline || token.kind == .endOfText || (token.markIn [";", "\x7d"]).isSome
  let value ← if ends then pure none else some <$> innerExpression self
  semicolon
  return .returns (optionOf value) (← spanFrom start)

def throwStatement (self : Phrases) (start : Nat) : Parser (Syntax .statement) := do
  word "throw"
  require !(← token).newline
  let value ← innerExpression self
  semicolon
  return .throws value (← spanFrom start)

def withStatement (self : Phrases) (start : Nat) : Parser (Syntax .statement) := do
  word "with"
  let base ← condition self
  let body ← substatement self
  return .withObject base body (← spanFrom start)

/-- A case of a `switch` with the statements up to the next one. -/
def switchCase (self : Phrases) : Parser (Syntax .switchCase) := do
  let start ← offset
  let test ← if ← eatWord "default" then pure none
    else do
      word "case"
      some <$> innerExpression self
  mark ":"
  let body ← many do
    let token ← token
    if token.isMark "\x7d" || (token.wordIn ["case", "default"]).isSome then return none
    return some (← self .statement)
  return .case (optionOf test) (listOf body) (← spanFrom start)

def switchStatement (self : Phrases) (start : Nat) : Parser (Syntax .statement) := do
  word "switch"
  let discriminant ← condition self
  mark "\x7b"
  let cases ← many do
    if ← isMark "\x7d" then return none else return some (← switchCase self)
  mark "\x7d"
  return .switch discriminant (listOf cases) (← spanFrom start)

/-- A `catch` clause, if there is one. -/
def catchClause? (self : Phrases) : Parser (Option (Syntax .catchClause)) := do
  let start ← offset
  if !(← eatWord "catch") then return none
  let param ← if ← eatMark "(" then do
      let param ← self .pattern
      annotatedType self
      mark ")"
      pure (some param)
    else pure none
  let body ← block self
  return some (.handler (optionOf param) body (← spanFrom start))

def tryStatement (self : Phrases) (start : Nat) : Parser (Syntax .statement) := do
  word "try"
  let body ← block self
  let handler ← catchClause? self
  let finalizer ← if ← eatWord "finally" then some <$> block self else pure none
  require (handler.isSome || finalizer.isSome)
  return .tryCatch body (optionOf handler) (optionOf finalizer) (← spanFrom start)

def labeledStatement (self : Phrases) (start : Nat) : Parser (Syntax .statement) := do
  let label ← variableName
  mark ":"
  let body ← substatement self
  return .labeled label.text body (← spanFrom start)

def expressionStatement (self : Phrases) (start : Nat) : Parser (Syntax .statement) := do
  let value ← innerExpression self
  semicolon
  return .expression value (← spanFrom start)

/-- A class with decorators, exported or not. An export and its class start after the decorators
before `export`. -/
def decoratedStatement (self : Phrases) (start : Nat) : Parser (Syntax .statement) := do
  let decorators ← decorators self
  if ← isWord "export" then return (← exportDeclaration self (← offset))
  require (← opensClass)
  classDeclaration self decorators start false

/-- A statement that its first keyword tells, if it starts with one. -/
def keywordStatement? (self : Phrases) (start : Nat) : Parser (Option (Syntax .statement)) := do
  let next ← nextToken
  match (← token).kind with
  | .name "if" false => some <$> ifStatement self start
  | .name "while" false => some <$> whileStatement self start
  | .name "do" false => some <$> doStatement self start
  | .name "for" false => some <$> forStatement self start
  | .name "break" false | .name "continue" false => some <$> jumpStatement start
  | .name "return" false => some <$> returnStatement self start
  | .name "throw" false => some <$> throwStatement self start
  | .name "with" false => some <$> withStatement self start
  | .name "switch" false => some <$> switchStatement self start
  | .name "try" false => some <$> tryStatement self start
  | .name "debugger" false =>
    discard advance
    semicolon
    return some (.plain (← spanFrom start))
  | .name "import" false =>
    if (next.markIn ["(", "."]).isSome then return none
    some <$> importDeclaration self start
  | .name "export" false => some <$> exportDeclaration self start
  | _ => return none

def statement (self : Phrases) : Parser (Syntax .statement) := do
  let start ← offset
  let token ← token
  if token.isMark "\x7b" then return (← block self)
  if ← eatMark ";" then return .plain (← spanFrom start)
  if token.isMark "@" then return (← decoratedStatement self start)
  if let some statement ← keywordStatement? self start then return statement
  if let some statement ← declaration? self start then return statement
  if token.isPlainName && (← nextToken).isMark ":" then labeledStatement self start
  else expressionStatement self start

end PropTrace.Grammar

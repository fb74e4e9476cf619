import PropTrace.Grammar.Types

/-!
Functions, from their parameters on.
-/
namespace PropTrace.Grammar

open PropTrace.Grammar.Parser

/-- The circumstances inside a function. -/
def Context.inBody (isAsync isGenerator : Bool) (context : Context) : Context :=
  { context with
    allowIn := true, inAsync := isAsync, inGenerator := isGenerator, inFunction := true
    inDecorator := false, conditionalTypes := true }

/-- Whether a statement is a directive if it stands at the start of a body: a string and nothing
else. -/
def isDirective : Syntax .statement → Bool
  | .expression (.literal (.string _) _) _ => true
  | _ => false

/-- Statements up to a closing brace. -/
def statements (self : Phrases) : Parser (List (Syntax .statement)) := do
  mark "\x7b"
  let body ← many do
    if ← isMark "\x7d" then return none
    return some (← self .statement)
  mark "\x7d"
  return body

/-- The body of a function. The directives at its start are no statements of it. -/
def functionBody (self : Phrases) : Parser (List (Syntax .statement)) := do
  return (← statements self).dropWhile isDirective

/-- How a function is introduced. -/
structure FunctionHead where
  kind : FunctionKind
  name : Option Name := none
  isAsync : Bool := false
  isGenerator : Bool := false
  /-- Whether the body may be missing. -/
  mayOmitBody : Bool := false
  /-- Where the function starts. -/
  start : Nat

/-- A function after its head: parameters, type of the result and body. -/
def functionRest (self : Phrases) (head : FunctionHead) : Parser (Syntax .functionForm) :=
  within (Context.inBody head.isAsync head.isGenerator) do
    typeParameters? self
    let parameters ← parameters self
    annotatedResult self
    let body ← if !head.mayOmitBody || (← isMark "\x7b") then functionBody self
      else do
        semicolon
        pure []
    return .func head.kind head.name (listOf parameters.params) (optionOf parameters.rest)
      parameters.restSpan (listOf body) (← spanFrom head.start)

/-- A method from its parameters on. -/
def methodRest (self : Phrases) (isAsync isGenerator mayOmitBody : Bool) :
    Parser (Syntax .functionForm) := do
  functionRest self {
    kind := .expression, isAsync, isGenerator, mayOmitBody, start := ← offset }

/-- The body of an arrow function: statements, or one expression as a statement of its own. -/
def arrowBody (self : Phrases) (isAsync returnTypes : Bool) : Parser (List (Syntax .statement)) :=
  do
    if ← isMark "\x7b" then within (Context.inBody isAsync false) (functionBody self)
    else
      let start ← offset
      let value ← within ({ · with inAsync := isAsync, inGenerator := false })
        (self (.assignment returnTypes))
      return [.expression value (← spanFrom start)]

/-- An arrow function whose only parameter is a plain name. -/
def plainArrow (self : Phrases) (start : Nat) (isAsync returnTypes : Bool) (param : Name) :
    Parser (Syntax .expr) := do
  require !(← token).newline
  mark "=>"
  let body ← arrowBody self isAsync returnTypes
  let params := Syntax.cons (.parameter .nil (.boundName param) .absent param.span) .nil
  return .functionExpr
    (.func .arrow none params .absent param.span (listOf body) (← spanFrom start))

/-- What is known of a phrase before it is read. -/
inductive Verdict where
  | yes | no | open
  deriving DecidableEq

/-- Whether an opening angle in an expression starts the type parameters of an arrow function and
not an element. -/
def angleOpensArrow : Parser Verdict := do
  let verdict ← ahead do
    mark "<"
    discard <| eatWord "const"
    discard anyName
    if ((← token).markIn [",", "="]).isSome then return .yes
    word "extends"
    if ((← token).markIn ["=", ">", "/"]).isSome then return .no else return Verdict.yes
  return verdict.getD .no

/-- Whether a parenthesis starts the parameters of an arrow function. -/
def parenthesisOpensArrow : Parser Verdict := do
  let verdict ← ahead do
    mark "("
    if ← eatMark ")" then
      return if ((← token).markIn [":", "=>", "\x7b"]).isSome then .yes else .no
    if ((← token).markIn ["[", "\x7b"]).isSome then return .open
    if ← isMark "..." then return .yes
    let first ← token
    require first.isName
    discard advance
    if (first.wordIn parameterModifiers).isSome && (← token).isName && !(← isWord "as") then
      return .yes
    require (first.isWord "this" ||
      (match first.kind with | .name text _ => !reservedWords.contains text | _ => false))
    if ← eatMark "?" then
      return if ((← token).markIn [":", ",", "=", ")"]).isSome then .yes else .no
    if ← isMark ":" then return .yes
    if ((← token).markIn [",", "=", ")"]).isSome then return Verdict.open else return .no
  return verdict.getD .no

/-- Whether an arrow function with parameters in parentheses starts here. -/
def opensArrow : Parser Verdict := do
  let token ← token
  if token.isMark "(" then parenthesisOpensArrow
  else if token.isMark "<" then angleOpensArrow
  else if token.isWord "async" then
    let next ← nextToken
    if next.newline then return .no
    else if next.isMark "(" || next.isMark "<" then
      let verdict ← ahead do
        discard advance
        if next.isMark "(" then parenthesisOpensArrow else angleOpensArrow
      return if verdict.getD .no = .no then .no else .open
    else return .no
  else return .no

/-- An arrow function with parameters in parentheses. In the middle of a conditional expression a
colon has to follow it if its result has a type, for else that colon belongs to the condition. -/
def arrowFunction (self : Phrases) (returnTypes : Bool) : Parser (Syntax .expr) := do
  let start ← offset
  let isAsync ← eatWord "async"
  let (parameters, typed) ← within (Context.inBody isAsync false) do
    typeParameters? self
    let parameters ← parameters self
    let typed ← isMark ":"
    annotatedResult self
    require !(← token).newline
    mark "=>"
    return (parameters, typed)
  let body ← arrowBody self isAsync returnTypes
  require (returnTypes || !typed || (← isMark ":"))
  return .functionExpr
    (.func .arrow none (listOf parameters.params) (optionOf parameters.rest) parameters.restSpan
      (listOf body) (← spanFrom start))

/-- An arrow function with parameters in parentheses, if one stands here. -/
def arrowFunction? (self : Phrases) (returnTypes : Bool) : Parser (Option (Syntax .expr)) := do
  match ← opensArrow with
  | .yes => return some (← arrowFunction self true)
  | .open => attemptReading .arrow (arrowFunction self returnTypes)
  | .no => return none

/-- An `async` arrow function whose only parameter is a plain name, if one stands here. -/
def asyncPlainArrow? (self : Phrases) (returnTypes : Bool) : Parser (Option (Syntax .expr)) := do
  let next ← nextToken
  if !(← isWord "async") || !next.isName || next.newline then return none
  if !(Token.scan next.stop).isMark "=>" then return none
  let start ← offset
  discard advance
  let param ← within ({ · with inAsync := true }) variableName
  return some (← plainArrow self start true returnTypes param)

end PropTrace.Grammar

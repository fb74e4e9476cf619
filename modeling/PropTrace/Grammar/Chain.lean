import PropTrace.Grammar.Operator
import PropTrace.Grammar.Primary

/-!
Members and calls in a row. If a link of the row is optional, the row as a whole is one chain.
-/
namespace PropTrace.Grammar

open PropTrace.Grammar.Parser

/-- The links read so far. -/
structure Links where
  value : Syntax .expr
  /-- Whether one of the links is optional. -/
  isOptional : Bool := false

/-- A value without the list of types after it, which belongs to the call. -/
def withoutTypes : Syntax .expr → Syntax .expr
  | .wrapped .instantiation inner _ => inner
  | value => value

/-- Whether a list of types may end here. Before an operand the angles are operators. -/
def followsTypes : Parser Bool := do
  let token ← token
  if (token.markIn ["(", "`"]).isSome then return true
  if (token.markIn ["<", ">", "+", "-"]).isSome then return false
  return token.newline || (token.binaryLevel? (← context).allowIn).isSome ||
    !token.startsExpression

/-- A list of types after a value. -/
def valueTypes (self : Phrases) : Parser Unit := do
  typeArguments self
  require ((← behind).peek? != some '=')
  require (← followsTypes)

/-- The name of a member, and what it is read off. -/
def memberAfter (start : Nat) (value : Syntax .expr) : Parser (Syntax .expr) := do
  match (← advance).kind with
  | .name text _ => return .member value text (← spanFrom start)
  | .privateName text => return .privateMember value text (← spanFrom start)
  | _ => fail

/-- A member whose key is an expression. -/
def indexAfter (self : Phrases) (start : Nat) (value : Syntax .expr) : Parser (Syntax .expr) := do
  mark "["
  let key ← innerExpression self
  mark "]"
  return .index value key (← spanFrom start)

/-- A template after its tag. -/
def taggedAfter (self : Phrases) (start : Nat) (tag : Syntax .expr) : Parser (Syntax .expr) := do
  let parts ← templateParts false (innerExpression self)
  return .tagged (withoutTypes tag) (listOf parts) (← spanFrom start)

/-- The next link if it is an optional member. -/
def optionalMember? (self : Phrases) (start : Nat) (links : Links) : Parser (Option Links) := do
  let next ← nextToken
  match next.kind with
  | .name .. | .privateName _ =>
    discard advance
    return some { value := ← memberAfter start links.value, isOptional := true }
  | .mark "[" =>
    discard advance
    return some { value := ← indexAfter self start links.value, isOptional := true }
  | _ => return none

/-- The next link if it is no call. -/
def memberLink? (self : Phrases) (start : Nat) (allowOptional : Bool) (links : Links) :
    Parser (Option Links) := do
  let token ← token
  if ← eatMark "." then return some { links with value := ← memberAfter start links.value }
  if token.isMark "[" && !(← context).inDecorator then
    return some { links with value := ← indexAfter self start links.value }
  if token.isMark "?." && allowOptional then return (← optionalMember? self start links)
  if token.isMark "!" && !token.newline then
    discard advance
    return some { links with value := .wrapped .nonNull links.value (← spanFrom start) }
  if token.isMark "`" then
    require !links.isOptional
    return some { links with value := ← taggedAfter self start links.value }
  if token.asAngle?.isSome && (← attempt (valueTypes self)).isSome then
    return some { links with value := .wrapped .instantiation links.value (← spanFrom start) }
  return none

/-- A call of the links read so far. -/
def callAfter (self : Phrases) (start : Nat) (callee : Syntax .expr) : Parser (Syntax .expr) := do
  let arguments ← callArguments self
  return .call callee (listOf arguments) (← spanFrom start)

/-- The next link. -/
def link? (self : Phrases) (start : Nat) (links : Links) : Parser (Option Links) := do
  if let some links ← memberLink? self start true links then return some links
  if ← isMark "(" then
    return some { links with value := ← callAfter self start (withoutTypes links.value) }
  if ← eatMark "?." then
    if (← token).asAngle?.isSome then typeArguments self
    return some { value := ← callAfter self start links.value, isOptional := true }
  return none

/-- `import(source, options)`, also with a phase before the parentheses, or `import.meta`. -/
def importExpression (self : Phrases) : Parser (Syntax .expr) := do
  let start ← offset
  word "import"
  if ← eatMark "." then
    if ← eatWord "meta" then return .word (← spanFrom start)
    require ((← token).wordIn ["source", "defer"]).isSome
    discard advance
  mark "("
  let source ← assignmentOf self
  let options ← if (← eatMark ",") && !(← isMark ")") then do
      let options ← assignmentOf self
      discard <| eatMark ","
      pure (some options)
    else pure none
  mark ")"
  return .importCall source (optionOf options) (← spanFrom start)

/-- `super`, of which a member is read or which is called. -/
def superExpression : Parser (Syntax .expr) := do
  let start ← offset
  word "super"
  require ((← token).markIn ["(", ".", "["]).isSome
  return .word (← spanFrom start)

/-- `new.target`, or an instance of something. -/
def newExpression (self : Phrases) : Parser (Syntax .expr) := do
  let start ← offset
  word "new"
  if ← eatMark "." then
    word "target"
    return .word (← spanFrom start)
  require !((← isWord "import") && (← nextToken).isMark "(")
  let callee ← self .callee
  require !(← isMark "?.")
  let arguments ← if ← isMark "(" then callArguments self else pure []
  return .new (withoutTypes callee) (listOf arguments) (← spanFrom start)

/-- What the links start from. -/
def linkBase (self : Phrases) : Parser (Syntax .expr) := do
  if ← isWord "new" then newExpression self
  else if ← isWord "super" then superExpression
  else if ← isWord "import" then importExpression self
  else primary self

/-- What `new` is applied to. -/
def callee (self : Phrases) : Parser (Syntax .expr) := do
  let start ← offset
  let links ← iterate (memberLink? self start false) { value := ← linkBase self }
  return links.value

/-- The span of a link. -/
def linkSpan? : Syntax .expr → Option Span
  | .call _ _ span | .member _ _ span | .index _ _ span | .privateMember _ _ span
  | .wrapped .nonNull _ span => some span
  | _ => none

/-- Closes a chain. A list of types at its end stays outside. -/
def closeChain : Syntax .expr → Syntax .expr
  | .wrapped .instantiation inner span => .wrapped .instantiation (closeChain inner) span
  | value =>
    match linkSpan? value with
    | some span => .chain value span
    | none => value

/-- A call, a member or less. -/
def leftHand (self : Phrases) : Parser (Syntax .expr) := do
  let start ← offset
  let links ← iterate (link? self start) { value := ← linkBase self }
  return if links.isOptional then closeChain links.value else links.value

end PropTrace.Grammar

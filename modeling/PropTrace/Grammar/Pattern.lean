import PropTrace.Grammar.Goal

/-!
Patterns: what declarations and parameters bind, and what assignments take apart.
-/
namespace PropTrace.Grammar

open PropTrace.Grammar.Parser

/-- The name of a member of an object, a pattern or a class. -/
inductive MemberKey where
  | plain (name : Name) (escaped : Bool)
  /-- A string or a number. -/
  | literal (value : Syntax .expr)
  | computed (value : Syntax .expr)
  /-- `#name` -/
  | hidden

namespace MemberKey

/-- The expression of a computed key. -/
def computed? : MemberKey → Option (Syntax .expr)
  | computed value => some value
  | _ => none

/-- The expression of any key that is no name. -/
def expression? : MemberKey → Option (Syntax .expr)
  | computed value | literal value => some value
  | _ => none

end MemberKey

/-- A type after a colon, if there is one. -/
def annotatedType (self : Phrases) : Parser Unit := do
  if ← eatMark ":" then self .type

/-- The name of a member. -/
def memberKey (self : Phrases) : Parser MemberKey := do
  if ← eatMark "[" then
    let value ← within ({ · with inDecorator := false }) (assignmentOf self)
    mark "]"
    return .computed value
  let token ← advance
  let span := ⟨token.start.offset, token.stop.offset⟩
  match token.kind with
  | .name text escaped => return .plain { text, span } escaped
  | .literal value => return .literal (.literal value span)
  | .privateName _ => return .hidden
  | _ => fail

/-- A rest, which has to be the last member: not even a comma may follow it. -/
def lastMember {α : Type} (rest : Parser α) : Parser α := do
  let value ← rest
  require !(← isMark ",")
  return value

/-- Separates the last member, which may be a rest, from the others. None if a rest stands before
other members. -/
def splitRest {α β : Type} : List (α ⊕ β) → Option (List α × Option β)
  | [] => some ([], none)
  | [.inr rest] => some ([], some rest)
  | .inl member :: others =>
    (splitRest others).map fun (members, rest) => (member :: members, rest)
  | .inr _ :: _ => none

/-- A value after an equals sign, if there is one. -/
def initial? (self : Phrases) : Parser (Option (Syntax .expr)) := do
  if ← eatMark "=" then return some (← assignmentOf self) else return none

/-- A pattern with or without a default. -/
def patternElement (self : Phrases) : Parser (Syntax .pattern) := do
  let start ← offset
  let pattern ← self .pattern
  match ← initial? self with
  | some value => return .defaultPattern pattern value (← spanFrom start)
  | none => return pattern

def arrayPattern (self : Phrases) : Parser (Syntax .pattern) := do
  let start ← offset
  mark "["
  let members ← commaList "]" do
    if ← isMark "," then return none
    if ← eatMark "..." then return some (.inr (← lastMember (self .pattern)))
    return some (.inl (← patternElement self))
  let (elements, rest) ← ofOption (splitRest members)
  return .arrayPattern (listOf elements) (optionOf rest) (← spanFrom start)

/-- A member of an object pattern: a key with a pattern, or a name that is both. -/
def patternProperty (self : Phrases) : Parser (Syntax .patternProperty) := do
  let start ← offset
  let key ← memberKey self
  match key with
  | .plain name _ =>
    if ← eatMark ":" then return .patternMember .absent (← patternElement self)
    require (isVariableName (← context) name.text)
    match ← initial? self with
    | some value =>
      return .patternMember .absent
        (.defaultPattern (.boundName name) value (← spanFrom start))
    | none => return .patternMember .absent (.boundName name)
  | .hidden => fail
  | key =>
    mark ":"
    return .patternMember (optionOf key.computed?) (← patternElement self)

def objectPattern (self : Phrases) : Parser (Syntax .pattern) := do
  let start ← offset
  mark "\x7b"
  let members ← commaSeparated "\x7d" do
    if ← eatMark "..." then return .inr (.boundName (← lastMember variableName))
    return .inl (← patternProperty self)
  let (properties, rest) ← ofOption (splitRest members)
  return .objectPattern (listOf properties) (optionOf rest) (← spanFrom start)

/-- What a declaration binds. -/
def pattern (self : Phrases) : Parser (Syntax .pattern) := do
  if ← isMark "[" then arrayPattern self
  else if ← isMark "\x7b" then objectPattern self
  else return .boundName (← variableName)

/-- An expression as what an assignment writes to: a name or a member, in any wrappers but a list
of types. -/
def asTarget? : {c : Category} → Syntax c → Option (Syntax .target)
  | _, .identifier name => some (.targetName name)
  | _, .member object name span => some (.targetMember object name span)
  | _, .index object key span => some (.targetIndex object key span)
  | _, .privateMember object name span => some (.targetPrivate object name span)
  | _, .wrapped wrapper inner span =>
    if wrapper = .instantiation then none
    else (asTarget? inner).map fun target => .targetWrapped wrapper target span
  | _, _ => none

/-- Whether a member of a pattern may end here. -/
def endsTarget : Parser Bool := do
  let token ← token
  return (token.markIn [",", "]", "\x7d", ")", "="]).isSome || (token.wordIn ["of", "in"]).isSome

/-- What an assignment writes to, if it is no pattern. -/
def plainTarget (self : Phrases) : Parser (Syntax .target) := do
  ofOption (asTarget? (← self (.binary 0)))

/-- What an assignment writes to, without a default. -/
def targetElement (self : Phrases) : Parser (Syntax .target) := do
  if (← isMark "[") || (← isMark "\x7b") then
    let nested ← attemptReading .element do
      let target ← self .target
      require (← endsTarget)
      return target
    if let some target := nested then return target
  plainTarget self

/-- What an assignment writes to, with or without a default. -/
def targetWithDefault (self : Phrases) : Parser (Syntax .target) := do
  let start ← offset
  let target ← targetElement self
  match ← initial? self with
  | some value => return .targetDefault target value (← spanFrom start)
  | none => return target

def arrayTarget (self : Phrases) : Parser (Syntax .target) := do
  let start ← offset
  mark "["
  let members ← commaList "]" do
    if ← isMark "," then return none
    if ← eatMark "..." then return some (.inr (← lastMember (targetElement self)))
    return some (.inl (← targetWithDefault self))
  let (elements, rest) ← ofOption (splitRest members)
  return .targetArray (listOf elements) (optionOf rest) (← spanFrom start)

/-- A member of an object pattern on the left of an assignment. -/
def targetProperty (self : Phrases) : Parser (Syntax .targetProperty) := do
  let start ← offset
  let key ← memberKey self
  match key with
  | .plain name _ =>
    if ← eatMark ":" then
      let target ← targetWithDefault self
      return .targetKeyed .absent target (← spanFrom start)
    require (isVariableName (← context) name.text)
    let value ← initial? self
    return .shorthand name (optionOf value) (← spanFrom start)
  | .hidden => fail
  | key =>
    mark ":"
    let target ← targetWithDefault self
    return .targetKeyed (optionOf key.expression?) target (← spanFrom start)

def objectTarget (self : Phrases) : Parser (Syntax .target) := do
  let start ← offset
  mark "\x7b"
  let members ← commaSeparated "\x7d" do
    if ← eatMark "..." then return .inr (← lastMember (plainTarget self))
    return .inl (← targetProperty self)
  let (properties, rest) ← ofOption (splitRest members)
  return .targetObject (listOf properties) (optionOf rest) (← spanFrom start)

/-- An array or object pattern on the left of an assignment. -/
def target (self : Phrases) : Parser (Syntax .target) :=
  within ({ · with allowIn := true }) do
    if ← isMark "[" then arrayTarget self else objectTarget self

/-- A decorator. -/
def decorator (self : Phrases) : Parser (Syntax .expr) := do
  mark "@"
  within ({ · with inDecorator := true }) (self .leftHand)

def decorators (self : Phrases) : Parser (List (Syntax .expr)) :=
  many do
    if ← isMark "@" then return some (← decorator self) else return none

/-- The parameters of a function. -/
structure Parameters where
  params : List (Syntax .param)
  rest : Option (Syntax .pattern)
  restSpan : Span

/-- Words before a parameter that make it a field as well. -/
def parameterModifiers : List String :=
  ["public", "private", "protected", "readonly", "override"]

/-- Moves past the words before a parameter. A word that ends the parameter is its name. -/
def skipParameterModifiers : Parser Unit :=
  discard <| many do
    if ((← token).wordIn parameterModifiers).isSome then
      let next ← nextToken
      if next.isName || next.isMark "[" || next.isMark "\x7b" then
        return some (← advance)
    return none

/-- One parameter or the rest of them. A parameter called `this` only has a type. -/
def parameter (self : Phrases) : Parser (Option (Syntax .param ⊕ Syntax .pattern × Span)) := do
  let start ← offset
  let decorators ← decorators self
  if ← eatWord "this" then
    annotatedType self
    return none
  if ← eatMark "..." then
    let rest ← self .pattern
    let span ← spanFrom start
    lastMember (annotatedType self)
    return some (.inr (rest, span))
  skipParameterModifiers
  let pattern ← self .pattern
  discard <| eatMark "?"
  annotatedType self
  let value ← initial? self
  return some (.inl (.parameter (listOf decorators) pattern (optionOf value) (← spanFrom start)))

/-- Parameters between parentheses. -/
def parameters (self : Phrases) : Parser Parameters :=
  within ({ · with allowIn := true, inDecorator := false, conditionalTypes := true }) do
    let start ← offset
    mark "("
    let (params, rest) ← ofOption (splitRest (← commaList ")" (parameter self)))
    match rest with
    | some (rest, restSpan) => return { params, rest := some rest, restSpan }
    | none => return { params, rest := none, restSpan := ⟨start, start⟩ }

end PropTrace.Grammar

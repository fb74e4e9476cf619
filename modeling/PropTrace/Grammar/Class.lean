import PropTrace.Grammar.Function

/-!
Classes and their members. What a member is shows in its name and in the mark after it; the words
before the name only modify it, and each of them can be the name itself.
-/
namespace PropTrace.Grammar

open PropTrace.Grammar.Parser

/-- The circumstances of the value of a field. -/
def Context.inField (context : Context) : Context :=
  { context with allowIn := true, inAsync := false, inGenerator := false, inDecorator := false }

/-- The circumstances in a static block. -/
def Context.inStaticBlock (context : Context) : Context :=
  { context with
    allowIn := true, inAsync := true, inGenerator := false, inFunction := false
    inDecorator := false }

/-- Words before a class member that have to stand on its line. -/
def memberModifiers : List String :=
  ["declare", "public", "private", "protected", "abstract", "override", "readonly", "accessor",
    "async"]

/-- A word that modifies the member after it. -/
def memberModifier? : Parser (Option String) := do
  let token ← token
  let next ← nextToken
  if !(← nextStartsMember) && !next.isMark "*" then return none
  let text? := token.wordIn (if next.newline then ["static"] else "static" :: memberModifiers)
  if text?.isSome then discard advance
  return text?

/-- Moves past `get` or `set` if the name of an accessor follows: the number of parameters it
has. -/
def eatAccessor? : Parser (Option Nat) := do
  if !(← nextStartsMember) then return none
  if ← eatWord "get" then return some 0
  if ← eatWord "set" then return some 1
  return none

/-- The number of phrases in a row. -/
def lengthOf {c : Category} : Syntax (.list c) → Nat
  | .nil => 0
  | .cons _ rest => lengthOf rest + 1

/-- Whether a function takes a number of parameters and no more. -/
def takesExactly (count : Nat) : Syntax .functionForm → Bool
  | .func _ _ params .absent _ _ _ => lengthOf params == count
  | _ => false

/-- A method or an accessor from its parameters on. -/
def memberFunction (self : Phrases) (isAsync isGenerator mayOmitBody : Bool)
    (accessor? : Option Nat) : Parser (Syntax .functionForm) := do
  let value ← methodRest self isAsync isGenerator mayOmitBody
  require ((accessor?.map fun count => takesExactly count value).getD true)
  return value

/-- A field after its name. Automatic accessors and abstract fields are signatures. -/
def fieldRest (self : Phrases) (decorators : List (Syntax .expr)) (words : List String)
    (key : MemberKey) : Parser (Syntax .member) := do
  annotatedType self
  let value ← if ← eatMark "=" then
      pure (some (← within Context.inField (self (.assignment true))))
    else pure none
  semicolon
  if words.contains "accessor" || words.contains "abstract" then
    return .signature (listOf decorators) (optionOf key.computed?) (optionOf value)
  else return .field (listOf decorators) (optionOf key.computed?) (optionOf value)

/-- A mark after the name of a member that tells whether the member is there. -/
def eatPresence : Parser Unit := do
  let token ← token
  if token.isMark "?" || (token.isMark "!" && !token.newline) then discard advance

/-- A member that is no static block. -/
def namedMember (self : Phrases) : Parser (Syntax .member) := do
  let decorators ← decorators self
  let words ← many memberModifier?
  if (← attempt (indexKey self)).isSome then
    annotatedType self
    if !(← eatMark ",") then semicolon
    return .signature .nil .absent .absent
  let accessor? ← eatAccessor?
  let isGenerator ← eatMark "*"
  let key ← memberKey self
  eatPresence
  if ← startsSignature then
    let value ← memberFunction self (words.contains "async") isGenerator true accessor?
    return .method (listOf decorators) (optionOf key.computed?) value
  require !(accessor?.isSome || isGenerator || words.contains "async")
  fieldRest self decorators words key

def classMember (self : Phrases) : Parser (Syntax .member) := do
  let start ← offset
  if (← isWord "static") && (← nextToken).isMark "\x7b" then
    discard advance
    let body ← within Context.inStaticBlock (statements self)
    return .staticBlock (listOf body) (← spanFrom start)
  else namedMember self

/-- The members of a class between braces, with any number of semicolons between them. -/
def classMembers (self : Phrases) : Parser (List (Syntax .member)) := do
  mark "\x7b"
  let members ← many do
    if ← isMark "\x7d" then return none
    if ← eatMark ";" then return some none
    return some (some (← classMember self))
  mark "\x7d"
  return members.filterMap id

/-- The name of a class, if it has one. -/
def className? : Parser (Option Name) := do
  let token ← token
  let isHeritage := token.isWord "extends" ||
    (token.isWord "implements" && (← nextToken).isName)
  if token.isName && !isHeritage then return some (← variableName) else return none

/-- What a class implements, if it says so. -/
def implementsClause (self : Phrases) : Parser Unit := do
  if ← eatWord "implements" then
    typeReference self
    discard <| many do
      if ← eatMark "," then return some (← typeReference self) else return none

/-- A class from its keyword on. It starts where its decorators or modifiers do. -/
def classRest (self : Phrases) (kind : ClassKind) (decorators : List (Syntax .expr))
    (start : Nat) : Parser (Syntax .classForm) := do
  word "class"
  within ({ · with inDecorator := false }) do
    let name ← className?
    typeParameters? self
    let parent ← if ← eatWord "extends" then
        let parent ← self .leftHand
        typeArguments? self
        pure (some parent)
      else pure none
    implementsClause self
    let members ← classMembers self
    return .classBody kind (listOf decorators) name (optionOf parent) (listOf members)
      (← spanFrom start)

end PropTrace.Grammar

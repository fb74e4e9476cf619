import PropTrace.Grammar.Operation

/-!
Declarations: variables, functions and classes, and the declarations of types, enumerations and
namespaces.
-/
namespace PropTrace.Grammar

open PropTrace.Grammar.Parser

/-- A variable declaration up to its end. -/
structure Variables where
  kind : DeclarationKind
  declarators : List (Syntax .declarator)
  /-- Whether constants and patterns have values. -/
  isComplete : Bool

def Variables.spanning (vars : Variables) (span : Span) : Syntax .declaration :=
  .variableList vars.kind (listOf vars.declarators) span

/-- Whether a token can be the name of a variable. -/
def Token.isPlainName (token : Token) : Bool :=
  match token.kind with
  | .name text _ => !reservedWords.contains text
  | _ => false

/-- Whether a token after `let` makes that word the name of a variable. -/
def Token.continuesName (token : Token) : Bool :=
  (token.markIn [".", "(", ";"]).isSome || (token.asOperator.binaryLevel? true).isSome ||
    (token.asOperator.operatorText?.bind assignmentOperator?).isSome

/-- Whether a variable declaration starts here. -/
def opensVariables : Parser Bool := do
  let token ← token
  let next ← nextToken
  let third := Token.scan next.stop
  if token.isWord "var" then return true
  if token.isWord "const" then return !next.isWord "enum"
  if token.isWord "let" then return !next.continuesName
  if token.isWord "using" then
    return next.isPlainName && !next.newline && !next.isWord "of"
  return token.isWord "await" && next.isWord "using" && !next.newline && third.isPlainName &&
    !third.newline

/-- The words before the first declarator: where the names belong and whether they are
constants. -/
def variableWord : Parser (DeclarationKind × Bool) := do
  if ← eatWord "var" then return (.var, false)
  if ← eatWord "let" then return (.lexical, false)
  discard <| eatWord "await"
  discard advance
  return (.lexical, true)

/-- A declarator, and whether it has the value it needs. -/
def declarator (self : Phrases) (isConstant : Bool) : Parser (Syntax .declarator × Bool) := do
  let start ← offset
  let pattern ← self .pattern
  let token ← token
  if token.isMark "!" && !token.newline then discard advance
  annotatedType self
  if ← eatMark "=" then
    let value ← self (.assignment true)
    return (.declare pattern (.present value) (← spanFrom start), true)
  let isName := match pattern with
    | .boundName _ => true
    | _ => false
  return (.declare pattern .absent (← spanFrom start), isName && !isConstant)

def variableList (self : Phrases) : Parser Variables := do
  let (kind, isConstant) ← variableWord
  let first ← declarator self isConstant
  let others ← many do
    if ← eatMark "," then return some (← declarator self isConstant) else return none
  let declarators := first :: others
  return { kind, declarators := declarators.map (·.1), isComplete := declarators.all (·.2) }

def variableStatement (self : Phrases) (start : Nat) : Parser (Syntax .statement) := do
  let vars ← variableList self
  require (vars.isComplete || (← context).ambient)
  semicolon
  return .variableDecl (vars.spanning (← spanFrom start))

/-- A function declaration. Only a default export may have no name. -/
def functionDeclaration (self : Phrases) (start : Nat) (mayOmitName : Bool) :
    Parser (Syntax .statement) := do
  let isAsync ← eatWord "async"
  word "function"
  let isGenerator ← eatMark "*"
  let name ← if mayOmitName && !(← token).isName then pure none else some <$> variableName
  return .functionDecl (← functionRest self {
    kind := .declaration, name, isAsync, isGenerator, mayOmitBody := true, start })

/-- A class declaration after its decorators. Only a default export may have no name. -/
def classDeclaration (self : Phrases) (decorators : List (Syntax .expr)) (start : Nat)
    (mayOmitName : Bool) : Parser (Syntax .statement) := do
  discard <| eatWord "abstract"
  let value ← classRest self .declaration decorators start
  match value with
  | .classBody _ _ name .. =>
    require (mayOmitName || name.isSome)
    return .classDecl value

/-- Whether a class declaration starts here, decorators apart. -/
def opensClass : Parser Bool := do
  let next ← nextToken
  return (← isWord "class") || ((← isWord "abstract") && next.isWord "class" && !next.newline)

/-- A class declaration with decorators. -/
def decoratedClass (self : Phrases) (start : Nat) (mayOmitName : Bool) :
    Parser (Syntax .statement) := do
  let decorators ← decorators self
  require (← opensClass)
  classDeclaration self decorators start mayOmitName

def interfaceDeclaration (self : Phrases) (start : Nat) : Parser (Syntax .statement) := do
  word "interface"
  discard variableName
  typeParameters? self
  if ← eatWord "extends" then
    typeReference self
    discard <| many do
      if ← eatMark "," then return some (← typeReference self) else return none
  typeMembers self
  return .plain (← spanFrom start)

def typeAlias (self : Phrases) (start : Nat) : Parser (Syntax .statement) := do
  word "type"
  discard variableName
  typeParameters? self
  mark "="
  self .type
  semicolon
  return .plain (← spanFrom start)

/-- Whether a key can name a member of an enumeration: a word or a string. -/
def isEnumKey : MemberKey → Bool
  | .plain .. | .literal (.literal (.string _) _) | .computed (.literal (.string _) _) => true
  | _ => false

/-- A member of an enumeration: its value, if it is written. -/
def enumMember (self : Phrases) : Parser (Option (Syntax .expr)) := do
  require (isEnumKey (← memberKey self))
  initial? self

def enumDeclaration (self : Phrases) (start : Nat) : Parser (Syntax .statement) := do
  discard <| eatWord "const"
  word "enum"
  let name ← variableName
  mark "\x7b"
  let values ← commaSeparated "\x7d" (enumMember self)
  return .enumDecl name (listOf (values.filterMap id)) (← spanFrom start)

/-- The name of a namespace: names with dots between them, or a string. -/
def namespacePath : Parser (List String) := do
  match (← token).kind with
  | .literal (.string text) =>
    discard advance
    return [text]
  | _ =>
    let first ← anyName
    let rest ← many do
      if ← eatMark "." then return some (← anyName).text else return none
    return first.text :: rest

def namespaceDeclaration (self : Phrases) (start : Nat) : Parser (Syntax .statement) := do
  discard advance
  let path ← namespacePath
  let body ← if ← isMark "\x7b" then functionBody self
    else do
      require (← context).ambient
      semicolon
      pure []
  return .namespaceDecl path (listOf body) (← spanFrom start)

/-- `global` with a block. -/
def globalDeclaration (self : Phrases) (start : Nat) : Parser (Syntax .statement) := do
  word "global"
  let body ← functionBody self
  return .globalDecl (listOf body) (← spanFrom start)

/-- A declaration of types, an enumeration or a namespace, if one starts here. -/
def typeDeclaration? (self : Phrases) (start : Nat) : Parser (Option (Syntax .statement)) := do
  let token ← token
  let next ← nextToken
  if token.isWord "enum" || (token.isWord "const" && next.isWord "enum") then
    return some (← enumDeclaration self start)
  if next.newline then return none
  if token.isWord "interface" && next.isPlainName then
    return some (← interfaceDeclaration self start)
  if token.isWord "type" && next.isPlainName then return some (← typeAlias self start)
  let isString := match next.kind with
    | .literal (.string _) => true
    | _ => false
  if (token.wordIn ["namespace", "module"]).isSome && (next.isPlainName || isString) then
    return some (← namespaceDeclaration self start)
  if token.isWord "global" && next.isMark "\x7b" then return some (← globalDeclaration self start)
  return none

/-- A declaration without `declare`, if one starts here. -/
def plainDeclaration? (self : Phrases) (start : Nat) : Parser (Option (Syntax .statement)) := do
  if ← opensVariables then return some (← variableStatement self start)
  if (← isWord "function") || (← opensAsyncFunction) then
    return some (← functionDeclaration self start false)
  if ← opensClass then return some (← classDeclaration self [] start false)
  typeDeclaration? self start

/-- The words that may follow `declare`. -/
def declaredWords : List String :=
  ["abstract", "async", "class", "const", "enum", "function", "global", "interface", "let",
    "module", "namespace", "type", "using", "var"]

/-- A declaration, if one starts here. Behind `declare` nothing needs a value. -/
def declaration? (self : Phrases) (start : Nat) : Parser (Option (Syntax .statement)) := do
  let next ← nextToken
  if (← isWord "declare") && (next.wordIn declaredWords).isSome && !next.newline then
    discard advance
    return some (← ofOption (← within ({ · with ambient := true }) (plainDeclaration? self start)))
  plainDeclaration? self start

end PropTrace.Grammar

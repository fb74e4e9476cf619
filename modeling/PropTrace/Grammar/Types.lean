import PropTrace.Grammar.Pattern

/-!
Types. They are read to find where they end and leave nothing behind.
-/
namespace PropTrace.Grammar

open PropTrace.Grammar.Parser

/-- Types between angles. -/
def typeArguments (self : Phrases) : Parser Unit := do
  openAngle
  let arguments ← commaSeparated ">" (within ({ · with conditionalTypes := true }) (self .type))
  require !arguments.isEmpty

/-- One type parameter: modifiers, a name, a bound and a default. -/
def typeParameter (self : Phrases) : Parser Unit := do
  discard <| many do
    if ((← token).wordIn ["const", "in", "out"]).isSome && (← nextToken).isName then
      return some (← advance)
    else return none
  let name ← anyName
  require !(reservedWords.contains name.text)
  if ← eatWord "extends" then self .type
  if ← eatMark "=" then self .type

/-- Type parameters between angles. -/
def typeParameters (self : Phrases) : Parser Unit := do
  openAngle
  let names ← commaSeparated ">" (within ({ · with conditionalTypes := true }) (typeParameter self))
  require !names.isEmpty

/-- Type parameters, if there are any. -/
def typeParameters? (self : Phrases) : Parser Unit := do
  if (← token).asAngle?.isSome then typeParameters self

/-- Types between angles on the same line, if there are any. -/
def typeArguments? (self : Phrases) : Parser Unit := do
  let token ← token
  if token.asAngle?.isSome && !token.newline then typeArguments self

/-- The names after a dotted name. -/
def dottedNames : Parser Unit :=
  discard <| many do
    if ← eatMark "." then
      let token ← advance
      require (token.isName || (match token.kind with | .privateName _ => true | _ => false))
      return some ()
    else return none

/-- A dotted name with types between angles. -/
def typeReference (self : Phrases) : Parser Unit := do
  let name ← anyName
  require !(reservedWords.contains name.text)
  dottedNames
  typeArguments? self

/-- `import("module").Name` -/
def importType (self : Phrases) : Parser Unit := do
  word "import"
  mark "("
  self .type
  if ← eatMark "," then
    if !(← isMark ")") then
      discard <| assignmentOf self
      discard <| eatMark ","
  mark ")"
  dottedNames
  typeArguments? self

/-- The type of a function's result, which may say what the result tells about a parameter. -/
def resultType (self : Phrases) : Parser Unit := do
  let token ← token
  let next ← nextToken
  if token.isWord "asserts" && next.isName && !next.newline && !next.isWord "is" then
    discard advance
    discard anyName
    if ← eatWord "is" then self .type
  else if token.isName && next.isWord "is" && !next.newline then
    discard advance
    discard advance
    self .type
  else self .type

/-- The type of a function's result after a colon, if there is one. -/
def annotatedResult (self : Phrases) : Parser Unit := do
  if ← eatMark ":" then within ({ · with conditionalTypes := true }) (resultType self)

/-- A member of a tuple, which may have a label. -/
def tupleMember (self : Phrases) : Parser Unit := do
  discard <| eatMark "..."
  discard <| attempt do
    discard anyName
    discard <| eatMark "?"
    mark ":"
  self .type
  discard <| eatMark "?"

/-- Whether a member name starts here, after a word that may modify it. -/
def nextStartsMember : Parser Bool := do
  let next ← nextToken
  return match next.kind with
    | .name .. | .privateName _ | .literal _ => true
    | .mark text => text == "["
    | _ => false

/-- `[key: Type]` -/
def indexKey (self : Phrases) : Parser Unit := do
  mark "["
  discard anyName
  mark ":"
  self .type
  mark "]"

/-- Parameters and result of a member that is called. -/
def callSignature (self : Phrases) : Parser Unit := do
  typeParameters? self
  discard <| parameters self
  annotatedResult self

/-- Whether parameters may start here. -/
def startsSignature : Parser Bool := do
  let token ← token
  return token.isMark "(" || token.asAngle?.isSome

/-- A member of an object type. -/
def typeMember (self : Phrases) : Parser Unit := do
  if ← startsSignature then
    callSignature self
    return
  if (← isWord "new") && ((← nextToken).isMark "(" || (← nextToken).isMark "<") then
    discard advance
    callSignature self
    return
  if (← isWord "readonly") && (← nextStartsMember) then discard advance
  if ((← token).wordIn ["get", "set"]).isSome && (← nextStartsMember) then discard advance
  match ← attempt (indexKey self) with
  | some _ => annotatedType self
  | none =>
    discard <| memberKey self
    discard <| eatMark "?"
    if ← startsSignature then callSignature self else annotatedType self

/-- The end of a member of an object type. -/
def endTypeMember : Parser Unit := do
  if (← eatMark ";") || (← eatMark ",") then return
  require ((← isMark "\x7d") || (← token).newline)

/-- The members of an object type between braces. -/
def typeMembers (self : Phrases) : Parser Unit := do
  mark "\x7b"
  discard <| many do
    if ← isMark "\x7d" then return none
    typeMember self
    endTypeMember
    return some ()
  mark "\x7d"

/-- A plus or minus before a modifier of a mapped type. -/
def eatSign : Parser Unit := do
  if ((← token).markIn ["+", "-"]).isSome then discard advance

/-- `[Key in Type]: Type` between braces, with modifiers. -/
def mappedType (self : Phrases) : Parser Unit := do
  mark "\x7b"
  eatSign
  if (← isWord "readonly") && (← nextToken).isMark "[" then discard advance
  mark "["
  discard anyName
  word "in"
  self .type
  if ← eatWord "as" then self .type
  mark "]"
  eatSign
  discard <| eatMark "?"
  annotatedType self
  if !(← eatMark ";") then discard <| eatMark ","
  mark "\x7d"

def objectType (self : Phrases) : Parser Unit := do
  match ← attempt (mappedType self) with
  | some _ => return
  | none => typeMembers self

/-- `typeof name` -/
def typeQuery (self : Phrases) : Parser Unit := do
  word "typeof"
  if ← isWord "import" then importType self
  else
    discard anyName
    dottedNames
    typeArguments? self

/-- The words that are types on their own. -/
def typeWords : List String := ["this", "void", "null", "true", "false"]

/-- A type that no operator is left to be taken from. -/
def primaryType (self : Phrases) : Parser Unit := do
  let token ← token
  match token.kind with
  | .literal _ => discard advance
  | .mark "-" =>
    discard advance
    match (← advance).kind with
    | .literal (.number _) | .literal (.bigint _) => return
    | _ => fail
  | .mark "`" => discard <| templateParts true (self .type)
  | .mark "(" =>
    discard advance
    self .type
    mark ")"
  | .mark "[" =>
    discard advance
    discard <| commaSeparated "]" (tupleMember self)
  | .mark "\x7b" => objectType self
  | .name "typeof" false => typeQuery self
  | .name "import" false => importType self
  | .name text false =>
    if typeWords.contains text then
      discard advance
      if text == "this" && (← isWord "is") && !(← Parser.token).newline then
        discard advance
        self .type
    else typeReference self
  | .name _ true => typeReference self
  | _ => fail

/-- Brackets after a type: an array, or one member of the type. -/
def postfixType (self : Phrases) : Parser Unit := do
  within ({ · with conditionalTypes := true }) (primaryType self)
  discard <| many do
    if !(← isMark "[") || (← token).newline then return none
    discard advance
    if !(← eatMark "]") then
      within ({ · with conditionalTypes := true }) (self .type)
      mark "]"
    return some ()

/-- `infer Name`, with a bound unless that would be the condition of a conditional type. -/
def inferType (self : Phrases) : Parser Unit := do
  word "infer"
  discard anyName
  let conditional := (← context).conditionalTypes
  discard <| attempt do
    word "extends"
    within ({ · with conditionalTypes := false }) (self .type)
    require (!conditional || !(← isMark "?"))

/-- A type that is no union, intersection or function. -/
def operatorType (self : Phrases) : Parser Unit := do
  let token ← token
  if (token.wordIn ["keyof", "unique", "readonly"]).isSome then
    discard advance
    self .operatorType
  else if token.isWord "infer" && (← nextToken).isName then inferType self
  else postfixType self

/-- Types with a mark between them, and maybe one in front. -/
def typesBetween (separator : String) (member : Parser Unit) : Parser Unit := do
  discard <| eatMark separator
  member
  discard <| many do
    if ← eatMark separator then return some (← member) else return none

/-- Whether the parameters of a function type start here, and not a type in parentheses. -/
def startsFunctionType (self : Phrases) : Parser Bool :=
  sees do
    mark "("
    if (← isMark ")") || (← isMark "...") then return
    skipParameterModifiers
    if (← isMark "[") || (← isMark "\x7b") then discard <| self .pattern else discard anyName
    if ((← token).markIn [":", ",", "?", "="]).isSome then return
    mark ")"
    mark "=>"

/-- `(params) => Type` -/
def functionType (self : Phrases) : Parser Unit := do
  typeParameters? self
  discard <| parameters self
  mark "=>"
  resultType self

/-- Whether a function type or a constructor type starts here. -/
def opensFunctionType (self : Phrases) : Parser Bool := do
  let token ← token
  if token.asAngle?.isSome then return true
  else if token.isMark "(" then startsFunctionType self
  else return false

def type (self : Phrases) : Parser Unit := do
  if ← opensFunctionType self then
    functionType self
    return
  if (← isWord "abstract") && (← nextToken).isWord "new" then discard advance
  if ← eatWord "new" then
    functionType self
    return
  typesBetween "|" (typesBetween "&" (self .operatorType))
  if (← context).conditionalTypes && (← isWord "extends") && !(← token).newline then
    discard advance
    within ({ · with conditionalTypes := false }) (self .type)
    mark "?"
    self .type
    mark ":"
    self .type

end PropTrace.Grammar

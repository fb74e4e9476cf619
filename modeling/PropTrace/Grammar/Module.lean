import PropTrace.Grammar.Declaration

/-!
Imports and exports.
-/
namespace PropTrace.Grammar

open PropTrace.Grammar.Parser

/-- A string, such as the name of a module. -/
def moduleSource : Parser Unit := do
  match (← advance).kind with
  | .literal (.string _) => return
  | _ => fail

/-- The attributes of an import, if there are any. -/
def importAttributes (self : Phrases) : Parser Unit := do
  let token ← token
  if token.isWord "with" || (token.isWord "assert" && !token.newline) then
    discard advance
    mark "\x7b"
    discard <| commaSeparated "\x7d" do
      discard <| memberKey self
      mark ":"
      moduleSource

/-- The end of a statement that names a module. -/
def fromSource (self : Phrases) : Parser Unit := do
  moduleSource
  importAttributes self
  semicolon

/-- A name in the list of an import or export; none if it is a string. -/
def specifierWord? : Parser (Option (Option Name)) := do
  match (← token).kind with
  | .name .. => return some (some (← anyName))
  | .literal (.string _) =>
    discard advance
    return some none
  | _ => return none

/-- Whether the words of an import or export are one name, maybe marked as a type and maybe with
another name for it. -/
def validSpecifier (words : List (Option Name)) : Bool :=
  match words.map (·.map Name.text) with
  | [_] => true
  | [first, _] => first = some "type"
  | [_, second, _] => second = some "as"
  | [first, _, third, _] => first = some "type" && third = some "as"
  | _ => false

/-- A member of the list of an import or export: the name in the other module or in this one, and
the name it is given. A string is no name. -/
def specifier : Parser (Option Name × Option Name) := do
  let words ← many specifierWord?
  require (validSpecifier words)
  let isMarked := words.length == 2 || words.length == 4
  return ((if isMarked then words.tail else words).head?.join, words.getLast?.join)

/-- A name that has to be the name of a variable. -/
def requireVariable (name? : Option Name) : Parser Unit := do
  require (isVariableName (← context) (← ofOption name?).text)

/-- The names an import takes from a module. -/
def importedNames : Parser Unit := do
  mark "\x7b"
  discard <| commaSeparated "\x7d" do
    let (_, name?) ← specifier
    requireVariable name?

/-- A whole module under one name. -/
def importedModule : Parser Unit := do
  mark "*"
  word "as"
  discard variableName

/-- Moves past a word after `import` that is no name: `type`, or the phase of the import. -/
def skipImportWord : Parser Unit := do
  let token ← token
  let next ← nextToken
  let third := Token.scan next.stop
  let isModifier :=
    if token.isWord "type" then
      (next.markIn ["\x7b", "*"]).isSome ||
        (next.isName && (!next.isWord "from" || third.isWord "from" || third.isMark "="))
    else if token.isWord "defer" then next.isMark "*"
    else token.isWord "source" && next.isName && third.isWord "from"
  if isModifier then discard advance

/-- What an alias stands for: a module or a dotted name. -/
def aliasTarget : Parser Unit := do
  mark "="
  if (← isWord "require") && (← nextToken).isMark "(" then
    discard advance
    mark "("
    moduleSource
    mark ")"
  else
    discard anyName
    dottedNames
  semicolon

/-- What stands after the first name of an import. -/
def afterDefault (self : Phrases) : Parser Unit := do
  if ← eatMark "," then
    if ← isMark "*" then importedModule else importedNames
  word "from"
  fromSource self

/-- An import after its keyword. -/
def importRest (self : Phrases) : Parser Unit := do
  skipImportWord
  let token ← token
  if token.isMark "\x7b" then
    importedNames
    word "from"
    fromSource self
  else if token.isMark "*" then
    importedModule
    word "from"
    fromSource self
  else if token.isName then
    discard variableName
    if ← isMark "=" then aliasTarget else afterDefault self
  else fromSource self

def importDeclaration (self : Phrases) (start : Nat) : Parser (Syntax .statement) := do
  word "import"
  importRest self
  return .plain (← spanFrom start)

/-- Everything from another module. -/
def exportAll (self : Phrases) (start : Nat) : Parser (Syntax .statement) := do
  mark "*"
  if ← eatWord "as" then require (← specifierWord?).isSome
  word "from"
  fromSource self
  return .plain (← spanFrom start)

/-- A list of names, from this module or another one. In this module they are variables. -/
def exportNames (self : Phrases) (start : Nat) : Parser (Syntax .statement) := do
  mark "\x7b"
  let specifiers ← commaSeparated "\x7d" specifier
  if ← eatWord "from" then fromSource self
  else
    discard <| specifiers.mapM fun (name?, _) => requireVariable name?
    semicolon
  return .exportNamed .absent (← spanFrom start)

/-- The default export after its keyword. -/
def exportDefault (self : Phrases) (start : Nat) : Parser (Syntax .statement) := do
  word "default"
  let inner ← offset
  let next ← nextToken
  if (← isWord "function") || (← opensAsyncFunction) then
    let declaration ← functionDeclaration self inner true
    return .exportDefault declaration (← spanFrom start)
  if (← isMark "@") || (← opensClass) then
    let declaration ← decoratedClass self inner true
    return .exportDefault declaration (← spanFrom start)
  if (← isWord "interface") && next.isPlainName && !next.newline then
    let declaration ← interfaceDeclaration self inner
    return .exportDefault declaration (← spanFrom start)
  let value ← assignmentOf self
  semicolon
  return .exportDefaultValue value (← spanFrom start)

/-- `= value` after `export`. -/
def exportValue (self : Phrases) (start : Nat) : Parser (Syntax .statement) := do
  mark "="
  let value ← expressionOf self
  semicolon
  return .exportValue value (← spanFrom start)

/-- `as namespace Name` after `export`. -/
def exportNamespace (start : Nat) : Parser (Syntax .statement) := do
  word "as"
  word "namespace"
  discard variableName
  semicolon
  return .plain (← spanFrom start)

/-- An exported declaration. -/
def exportedDeclaration (self : Phrases) (start : Nat) : Parser (Syntax .statement) := do
  let inner ← offset
  let declaration ← if ← isMark "@" then decoratedClass self inner false
    else if ← isWord "import" then importDeclaration self inner
    else ofOption (← declaration? self inner)
  return .exportNamed (.present declaration) (← spanFrom start)

def exportDeclaration (self : Phrases) (start : Nat) : Parser (Syntax .statement) := do
  word "export"
  let next ← nextToken
  if (← isWord "type") && (next.markIn ["*", "\x7b"]).isSome then discard advance
  if ← isMark "*" then exportAll self start
  else if ← isMark "\x7b" then exportNames self start
  else if ← isMark "=" then exportValue self start
  else if ← isWord "default" then exportDefault self start
  else if (← isWord "as") && next.isWord "namespace" then exportNamespace start
  else exportedDeclaration self start

end PropTrace.Grammar

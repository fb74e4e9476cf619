import PropTrace.Grammar.Parser

/-!
The phrases that contain each other. Each rule of the grammar is a parser of its own; where it needs
one of these phrases it asks the parsers it is given, so no rule calls itself.
-/
namespace PropTrace.Grammar

inductive Goal where
  /-- An expression without a comma. In the middle of a conditional expression an arrow function
  has a return type only if a colon follows it. -/
  | assignment (returnTypes : Bool)
  /-- An operator expression whose operators bind tighter than a level. -/
  | binary (level : Nat)
  | unary
  /-- A call, a member or less. -/
  | leftHand
  /-- What `new` is applied to: a member or less. -/
  | callee
  | statement
  /-- What a declaration binds. -/
  | pattern
  /-- An array or object pattern on the left of an assignment. -/
  | target
  | type
  /-- A type that is no union, intersection or function. -/
  | operatorType
  | jsx

/-- What the parser of a phrase makes. Types leave nothing behind. -/
@[reducible]
def Goal.Result : Goal → Type
  | assignment _ | binary _ | unary | leftHand | callee => Syntax .expr
  | statement => Syntax .statement
  | pattern => Syntax .pattern
  | target => Syntax .target
  | type | operatorType => Unit
  | jsx => Syntax .jsx

/-- A parser for each of these phrases. -/
abbrev Phrases : Type := (goal : Goal) → Parser goal.Result

open PropTrace.Grammar.Parser

/-- An expression without a comma, anywhere but in the head of a loop. -/
def assignmentOf (self : Phrases) : Parser (Syntax .expr) :=
  within ({ · with allowIn := true }) (self (.assignment true))

/-- An expression with or without commas. -/
def expressionOf (self : Phrases) : Parser (Syntax .expr) := do
  let start ← offset
  let first ← self (.assignment true)
  if !(← isMark ",") then return first
  let rest ← many do
    if ← eatMark "," then return some (← self (.assignment true))
    else return none
  return .sequence (listOf (first :: rest)) (← spanFrom start)

/-- An expression between brackets of some kind. -/
def innerExpression (self : Phrases) : Parser (Syntax .expr) :=
  within ({ · with allowIn := true, inDecorator := false }) (expressionOf self)

/-- Any word, keywords included. -/
def anyName : Parser Name := do
  let token ← advance
  match token.kind with
  | .name text _ => return { text, span := ⟨token.start.offset, token.stop.offset⟩ }
  | _ => fail

/-- Whether a word can be the name of a variable here. -/
def isVariableName (context : Context) (text : String) : Bool :=
  !reservedWords.contains text && !(context.inAsync && text == "await") &&
    !(context.inGenerator && text == "yield")

/-- The name of a variable. -/
def variableName : Parser Name := do
  let name ← anyName
  require (isVariableName (← context) name.text)
  return name

/-- The text of a template up to the next expression: whether the template ends there. -/
def templateText (strict : Bool) (p : Point) : Parser Bool := do
  let (ended, after) ← ofOption (takeTemplateText strict (p.rest.length + 1) p)
  jump after
  return ended

/-- A template from its opening mark: the parts between its texts. -/
def templateParts {α : Type} (strict : Bool) (part : Parser α) : Parser (List α) := do
  let opening ← token
  require (opening.isMark "`")
  let ended ← templateText strict opening.stop
  let step := fun (parts, ended) => do
    if ended then return none
    let next ← part
    let closing ← token
    require (closing.isMark "\x7d")
    return some (parts ++ [next], ← templateText strict closing.stop)
  let (parts, _) ← iterate step ([], ended)
  return parts

end PropTrace.Grammar

import PropTrace.Grammar.Scanner
import PropTrace.Syntax.Program

/-!
Parsers over tokens. A parser looks at the token under the cursor and at the circumstances of the
phrase it reads. It may fail; the grammar then either reads the phrase in another way, or the text
has a syntax error.

Some phrases can only be told apart by reading on. A reading that failed is remembered by the place
where it started, also when the cursor goes back to before that place, so no phrase is tried in the
same way twice.
-/
namespace PropTrace.Grammar

/-- The circumstances of a phrase. -/
structure Context where
  /-- Whether `in` is an operator here. -/
  allowIn : Bool := true
  /-- Whether `await` is an operator here. -/
  inAsync : Bool := true
  /-- Whether `yield` is an operator here. -/
  inGenerator : Bool := false
  /-- Whether `return` may stand here. -/
  inFunction : Bool := false
  /-- Whether a bracket ends the expression, for it starts the name of a class member. -/
  inDecorator : Bool := false
  /-- Whether `extends` may follow a type. -/
  conditionalTypes : Bool := true
  /-- Whether declarations need no values. -/
  ambient : Bool := false
  /-- More rounds than any list in the text has members. -/
  rounds : Nat

/-- Readings that may have to be given up. -/
inductive Reading where
  | arrow | assignment | element
  deriving DecidableEq

structure State where
  /-- The token under the cursor. -/
  token : Token
  /-- The end of the token before it. -/
  behind : Point
  /-- Readings that failed, with the offsets where they started. -/
  failures : List (Reading × Nat)

/-- A parser; without a result it has failed. -/
def Parser (α : Type) : Type := Context → State → Option α × State

namespace Parser

variable {α β : Type}

@[always_inline]
instance : Monad Parser where
  pure a := fun _ state => (some a, state)
  bind parser next := fun context state =>
    match parser context state with
    | (some a, state) => next a context state
    | (none, state) => (none, state)

def fail : Parser α := fun _ state => (none, state)

/-- Goes on only under a condition. -/
def require (condition : Bool) : Parser Unit :=
  if condition then pure () else fail

/-- The result of a step that has one. -/
def ofOption : Option α → Parser α
  | some a => pure a
  | none => fail

def context : Parser Context := fun context state => (some context, state)

/-- The token under the cursor. -/
def token : Parser Token := fun _ state => (some state.token, state)

/-- The end of the token before the cursor. -/
def behind : Parser Point := fun _ state => (some state.behind, state)

/-- Puts another reading of the token under the cursor. -/
def reread (token : Token) : Parser Unit := fun _ state => (some (), { state with token })

/-- Goes on at a point of the text. -/
def jump (p : Point) : Parser Unit := fun _ state =>
  (some (), { state with token := .scan p, behind := p })

/-- Runs a parser under other circumstances. -/
def within (change : Context → Context) (parser : Parser α) : Parser α := fun context state =>
  parser (change context) state

/-- Moves past the token under the cursor. -/
def advance : Parser Token := fun _ state =>
  let token := state.token
  (some token, { state with token := .scan token.stop, behind := token.stop })

/-- Tries a parser; if it fails the cursor goes back. -/
def attempt (parser : Parser α) : Parser (Option α) := fun context state =>
  match parser context state with
  | (some a, state) => (some (some a), state)
  | (none, after) => (some none, { state with failures := after.failures })

/-- Tries a reading unless it failed here before. -/
def attemptReading (reading : Reading) (parser : Parser α) : Parser (Option α) :=
  fun context state =>
    let place := (reading, state.token.start.offset)
    if state.failures.contains place then (some none, state)
    else
      match parser context state with
      | (some a, state) => (some (some a), state)
      | (none, after) => (some none, { state with failures := place :: after.failures })

/-- Runs a parser and goes back. -/
def ahead (parser : Parser α) : Parser (Option α) := fun context state =>
  let (result, after) := parser context state
  (some result, { state with failures := after.failures })

/-- Whether a parser succeeds here; the cursor does not move. -/
def sees (parser : Parser α) : Parser Bool := do
  return (← ahead parser).isSome

/-- Repeats a parser until it has no result, for a limited number of rounds. -/
def repeatFor (parser : Parser (Option α)) : Nat → Parser (List α)
  | 0 => fail
  | rounds + 1 => do
    match ← parser with
    | none => return []
    | some a => return a :: (← repeatFor parser rounds)

/-- Repeats a parser until it has no result. -/
def many (parser : Parser (Option α)) : Parser (List α) := do
  repeatFor parser (← context).rounds

/-- Transforms a value by steps until there is none. -/
def iterateFor (step : α → Parser (Option α)) : Nat → α → Parser α
  | 0, _ => fail
  | rounds + 1, a => do
    match ← step a with
    | none => return a
    | some a => iterateFor step rounds a

def iterate (step : α → Parser (Option α)) (a : α) : Parser α := do
  iterateFor step (← context).rounds a

-- tokens

def isMark (text : String) : Parser Bool := return (← token).isMark text

def isWord (text : String) : Parser Bool := return (← token).isWord text

/-- Moves past a mark that has to stand here. -/
def mark (text : String) : Parser Unit := do
  require (← isMark text)
  discard advance

/-- Moves past a keyword that has to stand here. -/
def word (text : String) : Parser Unit := do
  require (← isWord text)
  discard advance

/-- Moves past a mark if it stands here. -/
def eatMark (text : String) : Parser Bool := do
  if ← isMark text then do
    discard advance
    return true
  else return false

def eatWord (text : String) : Parser Bool := do
  if ← isWord text then do
    discard advance
    return true
  else return false

/-- The offset where the token under the cursor starts. -/
def offset : Parser Nat := return (← token).start.offset

/-- The span from an offset to the end of the last token. -/
def spanFrom (start : Nat) : Parser Span := return ⟨start, (← behind).offset⟩

/-- The token after the one under the cursor. -/
def nextToken : Parser Token := return .scan (← token).stop

/-- Whether the next token is on the same line. -/
def nextOnLine : Parser Bool := return !(← nextToken).newline

/-- The end of a statement: a semicolon, or none before a closing brace, a line end or the end of
the text. -/
def semicolon : Parser Unit := do
  if ← eatMark ";" then return ()
  let token ← token
  require (token.isMark "\x7d" || token.kind == .endOfText || token.newline)

/-- Moves past an opening angle, also one that starts a longer mark. -/
def openAngle : Parser Unit := do
  reread (← ofOption (← token).asAngle?)
  discard advance

/-- Members with commas between them up to a closing mark. A member parser that returns nothing
makes a hole. -/
def commaList (close : String) (member : Parser (Option α)) : Parser (List α) := do
  let members ← many do
    if ← isMark close then return none
    else do
      let a ← member
      if !(← isMark close) then mark ","
      return some a
  mark close
  return members.filterMap id

/-- Members with commas between them up to a closing mark, without holes. -/
def commaSeparated (close : String) (member : Parser α) : Parser (List α) :=
  commaList close (some <$> member)

end Parser

/-- Phrases in a row. -/
def listOf {c : Category} : List (Syntax c) → Syntax (.list c)
  | [] => .nil
  | first :: rest => .cons first (listOf rest)

/-- A phrase that may be missing. -/
def optionOf {c : Category} : Option (Syntax c) → Syntax (.option c)
  | none => .absent
  | some value => .present value

end PropTrace.Grammar

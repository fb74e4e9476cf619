import PropTrace.Grammar.Types

/-!
JSX elements. Inside an element text, names and strings follow rules of their own, so their tokens
are read anew from the point where they start.
-/
namespace PropTrace.Grammar

open PropTrace.Grammar.Parser

/-- A name inside a tag. -/
def tagWord : Parser Name := do
  reread (← ofOption (← token).asJsxName?)
  anyName

/-- The words of a dotted path after the first one. They have no hyphens. -/
def pathWords : Parser (List String) :=
  many do
    if !(← eatMark ".") then return none
    let name ← tagWord
    require !(name.text.contains '-')
    return some name.text

/-- The name of an element: plain, with a namespace, or a dotted path. With it come the words by
which an opening and a closing tag are matched. -/
def tagName : Parser (JsxName × List String) := do
  let start ← token
  let first ← tagWord
  if ← eatMark ":" then
    let second ← tagWord
    return (.namespaced first.text second.text (← spanFrom start.start.offset),
      [first.text ++ ":" ++ second.text])
  let others ← pathWords
  if others.isEmpty then return (.plain first.text first.span, [first.text])
  let stop ← behind
  return (.path (textBetween start.start stop) ⟨start.start.offset, stop.offset⟩,
    first.text :: others)

/-- An expression in braces, or empty braces. -/
def container (self : Phrases) : Parser (Syntax .jsxPart) := do
  let start ← offset
  mark "\x7b"
  if ← eatMark "\x7d" then return .container .absent (← spanFrom start)
  let value ← innerExpression self
  mark "\x7d"
  return .container (.present value) (← spanFrom start)

/-- The value of an attribute: a string, an expression in braces, or an element. -/
def attributeValue (self : Phrases) : Parser (Syntax .jsxPart) := do
  let token ← token
  match token.asJsxString? with
  | some string =>
    reread string
    discard advance
    match string.kind with
    | .literal (.string text) => return .quoted text ⟨token.start.offset, string.stop.offset⟩
    | _ => fail
  | none =>
    if token.isMark "\x7b" then
      require !((← nextToken).isMark "\x7d")
      container self
    else return .nested (← self .jsx)

/-- An attribute with or without a value, or a spread. -/
def jsxAttribute (self : Phrases) : Parser (Syntax .jsxAttribute) := do
  let start ← offset
  if ← eatMark "\x7b" then
    mark "..."
    let value ← within ({ · with inDecorator := false }) (assignmentOf self)
    mark "\x7d"
    return .spreadAttribute value (← spanFrom start)
  let first ← tagWord
  let name ← if ← eatMark ":" then do
      let second ← tagWord
      pure (first.text ++ ":" ++ second.text)
    else pure first.text
  if ← eatMark "=" then
    let value ← attributeValue self
    return .namedAttribute name (.present value) (← spanFrom start)
  return .namedAttribute name .absent (← spanFrom start)

/-- A child in braces: an expression or a spread. -/
def bracedChild (self : Phrases) : Parser (Syntax .jsxPart) := do
  if !(← nextToken).isMark "..." then return (← container self)
  let start ← offset
  mark "\x7b"
  mark "..."
  let value ← innerExpression self
  mark "\x7d"
  return .spreadChild value (← spanFrom start)

/-- Whether a character ends the text between elements. -/
def endsText (c : Char) : Bool := c == '\x7b' || c == '\x7d' || c == '<' || c == '>'

/-- The children after a tag, up to the closing tag. -/
def jsxChildren (self : Phrases) : Parser (List (Syntax .jsxPart)) :=
  many do
    let (_, p) := (← behind).takeWhile fun c => !endsText c
    jump p
    if ← isMark "\x7b" then return some (← bracedChild self)
    require (← isMark "<")
    if (← nextToken).isMark "/" then return none
    return some (.nested (← self .jsx))

/-- An element or a fragment. -/
def jsx (self : Phrases) : Parser (Syntax .jsx) := do
  let start ← offset
  mark "<"
  if ← eatMark ">" then
    let children ← jsxChildren self
    mark "<"
    mark "/"
    mark ">"
    return .fragment (listOf children) (← spanFrom start)
  let (name, words) ← tagName
  typeArguments? self
  let attributes ← many do
    if ((← token).markIn ["/", ">"]).isSome then return none
    return some (← jsxAttribute self)
  if ← eatMark "/" then
    mark ">"
    let span ← spanFrom start
    return .element name (listOf attributes) span .nil span
  mark ">"
  let openingSpan ← spanFrom start
  let children ← jsxChildren self
  mark "<"
  mark "/"
  let (_, closing) ← tagName
  require (closing == words)
  mark ">"
  return .element name (listOf attributes) openingSpan (listOf children) (← spanFrom start)

end PropTrace.Grammar

import PropTrace.Grammar.Escape
import PropTrace.Grammar.Token
import PropTrace.Text.Identifier

/-!
Reading tokens. `Token.scan` reads the token after a point as it stands in most places; the other
readers serve regular expressions, templates and the inside of elements.
-/
namespace PropTrace.Grammar

/-- A name: its characters with escapes resolved, and whether it has any. Each round takes a
character, so as many rounds as there are characters suffice. -/
def takeName : Nat → Bool → Bool → Point → Option (List Char × Bool × Point)
  | 0, _, _, _ => none
  | fuel + 1, first, escaped, p =>
    let fits := fun c => if first then Text.isIdentifierStart c else Text.isIdentifierPart c
    match p.rest with
    | '\\' :: 'u' :: _ => do
      let (unit, after) ← unicodeEscape? (p.skip 2)
      match unit with
      | .char c =>
        if fits c then do
          let (rest, _, after) ← takeName fuel false true after
          some (c :: rest, true, after)
        else none
      | .half _ => none
    | '\\' :: _ => none
    | c :: _ =>
      if fits c then do
        let (rest, escaped, after) ← takeName fuel false escaped p.step
        some (c :: rest, escaped, after)
      else if first then none else some ([], escaped, p)
    | [] => if first then none else some ([], escaped, p)

/-- A name at a point. -/
def scanName (p : Point) : Option (String × Bool × Point) := do
  let (chars, escaped, after) ← takeName (p.rest.length + 1) true false p
  some (String.ofList chars, escaped, after)

/-- Digits with single separators between them. -/
def wellSeparated : List Char → Bool
  | [] => true
  | '_' :: _ => false
  | [_] => true
  | _ :: '_' :: [] => false
  | _ :: '_' :: rest => wellSeparated rest
  | _ :: rest => wellSeparated rest

/-- A possibly empty run of digits without its separators. -/
def digitRun? (isDigit : Char → Bool) (p : Point) : Option (List Char × Point) :=
  let (run, after) := p.takeWhile fun c => isDigit c || c == '_'
  if wellSeparated run then some (run.filter (· ≠ '_'), after) else none

def natOf (base : Nat) (digits : List Char) : Nat :=
  digits.foldl (fun value c => value * base + (hexDigit? c).getD 0) 0

/-- A point right after a number: no name or digit may follow. -/
def endsNumber (p : Point) : Bool :=
  match p.peek? with
  | some c => !Text.isIdentifierPart c && c ≠ '\\'
  | none => true

/-- The text between two points. -/
def textBetween (start stop : Point) : String :=
  String.ofList (start.rest.take (start.rest.length - stop.rest.length))

/-- A whole number that may be a big one. -/
def finishWhole (start after : Point) (value : Double) : Option (LiteralValue × Point) :=
  if after.peek? = some 'n' then
    if endsNumber after.step then some (.bigint (textBetween start after.step), after.step)
    else none
  else if endsNumber after then some (.number value, after)
  else none

/-- A number with a prefix that tells its base. -/
def scanRadix (start : Point) (base : Nat) (isDigit : Char → Bool) :
    Option (LiteralValue × Point) := do
  let (digits, after) ← digitRun? isDigit (start.skip 2)
  if digits.isEmpty then none
  else finishWhole start after (.nearest (natOf base digits) 1)

/-- The exponent of a decimal number, zero if none is written. -/
def scanExponent (p : Point) : Option (Bool × Int × Point) :=
  match p.peek? with
  | some c =>
    if c == 'e' || c == 'E' then do
      let (negative, p) := match p.step.peek? with
        | some '-' => (true, p.skip 2)
        | some '+' => (false, p.skip 2)
        | _ => (false, p.step)
      let (digits, after) ← digitRun? Char.isDigit p
      if digits.isEmpty then none
      else
        let value : Int := natOf 10 digits
        some (true, if negative then -value else value, after)
    else some (false, 0, p)
  | none => some (false, 0, p)

/-- A decimal number. -/
def scanDecimal (start : Point) : Option (LiteralValue × Point) := do
  let (whole, p) ← digitRun? Char.isDigit start
  let (hasPoint, places, p) ← if p.peek? = some '.' then do
      let (places, after) ← digitRun? Char.isDigit p.step
      some (true, places, after)
    else some (false, [], p)
  let (hasExponent, exponent, p) ← scanExponent p
  let digits := natOf 10 (whole ++ places)
  if hasPoint || hasExponent then
    if endsNumber p && !(whole.isEmpty && places.isEmpty) then
      some (.number (.ofDecimal digits (exponent - places.length)), p)
    else none
  else finishWhole start p (.ofDecimal digits 0)

/-- A number that starts with a zero and another digit: octal if all of its digits are. -/
def scanLeadingZero (start : Point) : Option (LiteralValue × Point) :=
  let (digits, after) := start.takeWhile Char.isDigit
  if digits.all isOctal then
    if endsNumber after then some (.number (.nearest (natOf 8 digits) 1), after) else none
  else do
    let (value, after) ← scanDecimal start
    match value with
    | .bigint _ => none
    | value => some (value, after)

/-- A number at a point. -/
def scanNumber (p : Point) : Option (LiteralValue × Point) :=
  match p.rest with
  | '0' :: c :: _ =>
    if c == 'x' || c == 'X' then scanRadix p 16 fun c => (hexDigit? c).isSome
    else if c == 'o' || c == 'O' then scanRadix p 8 isOctal
    else if c == 'b' || c == 'B' then scanRadix p 2 fun c => c == '0' || c == '1'
    else if c.isDigit then scanLeadingZero p
    else if c == '_' then none
    else scanDecimal p
  | _ => scanDecimal p

/-- The units of a string up to its closing quote. -/
def takeString (quote : Char) : Nat → Point → Option (List StringUnit × Point)
  | 0, _ => none
  | fuel + 1, p =>
    match p.rest with
    | [] => none
    | '\\' :: _ => do
      let (units, after) ← escape? p.step
      let (rest, after) ← takeString quote fuel after
      some (units ++ rest, after)
    | c :: _ =>
      if c == quote then some ([], p.step)
      else if c == '\n' || c == '\r' then none
      else do
        let (rest, after) ← takeString quote fuel p.step
        some (.char c :: rest, after)

/-- A string at its opening quote. -/
def scanString (p : Point) : Option (LiteralValue × Point) := do
  let quote ← p.peek?
  let (units, after) ← takeString quote p.rest.length p.step
  some (.string (StringUnit.text units), after)

/-- Marks, longer ones before their beginnings. A closing angle is always read alone, for it may
close a list of types. -/
def marks : List (List Char × String) :=
  ["...", "===", "!==", "**=", "<<=", "&&=", "||=", "??=", "=>", "==", "!=", "++", "+=", "--", "-=",
    "**", "*=", "/=", "%=", "<=", "<<", "&&", "&=", "||", "|=", "^=", "?.", "??", "\x7b", "\x7d",
    "(", ")", "[", "]", ",", ";", ":", ".", "@", "`", "=", "+", "-", "*", "/", "%", "<", ">", "&",
    "|", "^", "~", "!", "?"].map fun text => (text.toList, text)

/-- A mark at a point. A question mark before a fraction stands alone. -/
def scanMark (p : Point) : Option (String × Point) :=
  match p.rest with
  | '?' :: '.' :: c :: _ =>
    if c.isDigit then some ("?", p.step) else some ("?.", p.skip 2)
  | _ =>
    (marks.find? fun (chars, _) => chars.isPrefixOf p.rest).map fun (chars, text) =>
      (text, p.skip chars.length)

/-- What token stands at a point that is not between tokens. -/
def scanKind (p : Point) : TokenKind × Point :=
  match p.rest with
  | [] => (.endOfText, p)
  | '#' :: _ =>
    match scanName p.step with
    | some (text, _, after) => (.privateName text, after)
    | none => (.unknown, p)
  | '.' :: c :: _ =>
    if c.isDigit then
      match scanNumber p with
      | some (value, after) => (.literal value, after)
      | none => (.unknown, p)
    else
      match scanMark p with
      | some (text, after) => (.mark text, after)
      | none => (.unknown, p)
  | c :: _ =>
    if c == '"' || c == '\'' then
      match scanString p with
      | some (value, after) => (.literal value, after)
      | none => (.unknown, p)
    else if c.isDigit then
      match scanNumber p with
      | some (value, after) => (.literal value, after)
      | none => (.unknown, p)
    else if Text.isIdentifierStart c || c == '\\' then
      match scanName p with
      | some (text, escaped, after) => (.name text escaped, after)
      | none => (.unknown, p)
    else
      match scanMark p with
      | some (text, after) => (.mark text, after)
      | none => (.unknown, p)

/-- The token after a point. -/
def Token.scan (p : Point) : Token :=
  match skipGap .plain p.rest p.offset false with
  | none => { kind := .unknown, start := p, stop := p, newline := false }
  | some (newline, start) =>
    let (kind, stop) := scanKind start
    { kind, start, stop, newline }

/-- The body of a regular expression up to its closing slash; `inClass` between brackets. -/
def takeRegExpBody : Bool → Nat → Point → Option Point
  | _, 0, _ => none
  | inClass, fuel + 1, p =>
    match p.rest with
    | [] => none
    | '\\' :: c :: _ => if Text.isLineEnd c then none else takeRegExpBody inClass fuel (p.skip 2)
    | c :: _ =>
      if Text.isLineEnd c then none
      else if c == '/' && !inClass then some p.step
      else
        let inClass := if c == '[' then true else if c == ']' then false else inClass
        takeRegExpBody inClass fuel p.step

/-- The flags of a regular expression, each at most once. -/
def validFlags (flags : List Char) : Bool :=
  flags.all ("dgimsuvy".toList.contains ·) && flags.eraseDups.length == flags.length

/-- A token read as a regular expression. -/
def Token.asRegExp? (token : Token) : Option Token := do
  let after ← takeRegExpBody false token.start.rest.length token.start.step
  let (flags, stop) := after.takeWhile Text.isIdentifierPart
  if validFlags flags then
    some { token with kind := .literal (.regexp (textBetween token.start stop)), stop }
  else none

/-- The text of a template up to the next expression or to the end of the template: whether it is
the end, and the point after it. `strict` where every escape has to be a valid one. -/
def takeTemplateText (strict : Bool) : Nat → Point → Option (Bool × Point)
  | 0, _ => none
  | fuel + 1, p =>
    match p.rest with
    | [] => none
    | '`' :: _ => some (true, p.step)
    | '$' :: '\x7b' :: _ => some (false, p.skip 2)
    | '\\' :: _ =>
      if strict && !isTemplateEscape p.step then none
      else takeTemplateText strict fuel (p.skip 2)
    | _ :: _ => takeTemplateText strict fuel p.step

/-- The name of an element or attribute: it may have hyphens and no escapes. -/
def Token.asJsxName? (token : Token) : Option Token :=
  match token.start.peek? with
  | some c =>
    if Text.isIdentifierStart c then
      let (chars, stop) := token.start.takeWhile fun c => Text.isIdentifierPart c || c == '-'
      some { token with kind := .name (String.ofList chars) false, stop }
    else none
  | none => none

/-- The quoted value of an attribute, in which nothing is an escape. -/
def Token.asJsxString? (token : Token) : Option Token :=
  match token.start.peek? with
  | some quote =>
    if quote == '"' || quote == '\'' then
      let (chars, stop) := token.start.step.takeWhile (· ≠ quote)
      if stop.rest.isEmpty then none
      else some { token with kind := .literal (.string (String.ofList chars)), stop := stop.step }
    else none
  | none => none

/-- An opening angle read alone. -/
def Token.asAngle? (token : Token) : Option Token :=
  match token.kind with
  | .mark text =>
    if text.startsWith "<" then
      some { token with kind := .mark "<", stop := token.start.step }
    else none
  | _ => none

/-- A closing angle together with the marks right after it that belong to an operator. -/
def Token.asOperator (token : Token) : Token :=
  if token.isMark ">" then
    let longer := [">>>=", ">>>", ">>=", ">>", ">="].find? fun text =>
      text.toList.isPrefixOf token.start.rest
    match longer with
    | some text => { token with kind := .mark text, stop := token.start.skip text.length }
    | none => token
  else token

end PropTrace.Grammar

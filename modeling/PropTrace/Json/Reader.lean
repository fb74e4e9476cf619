import PropTrace.Json.Value
import PropTrace.Text.Span

/-!
Reading JSON text. A reader takes what it needs from the front of the text and leaves the rest. Its
faults are told apart by what went wrong: the text stopped early, the text is no JSON, or it is
JSON of another shape than the one asked for.

Values that are kept may nest up to a limit; values that are skipped are checked for syntax only.
-/
namespace PropTrace.Json

/-- Why a JSON text was refused. -/
inductive Fault where
  /-- The text ended inside a value. -/
  | truncated
  /-- The text is not JSON, or it holds a value beyond a limit of the reader. -/
  | malformed
  /-- The text is JSON so far, but of another shape than required. -/
  | mismatched
  deriving DecidableEq, Repr

/-- A step of reading: the text before it to a value and the text after it. -/
abbrev Reader (α : Type) := List Char → Except Fault (α × List Char)

/-- How deep arrays and objects that are kept may nest. -/
def nestingLimit : Nat := 127

def isJsonBlank (c : Char) : Bool :=
  c == ' ' || c == '\n' || c == '\t' || c == '\r'

def skipBlanks (cs : List Char) : List Char :=
  cs.dropWhile isJsonBlank

/-- The fault of meeting the wrong character, or none at all. -/
def faultAt : List Char → Fault
  | [] => .truncated
  | _ :: _ => .malformed

/-- Takes the characters of a word. -/
def takeWord : List Char → Reader Unit
  | [], cs => .ok ((), cs)
  | _ :: _, [] => .error .truncated
  | w :: word, c :: cs => if w = c then takeWord word cs else .error .malformed

/-- Takes one character after blanks. -/
def takeMark (mark : Char) : Reader Unit := fun cs =>
  match skipBlanks cs with
  | c :: rest => if c = mark then .ok ((), rest) else .error .malformed
  | [] => .error .truncated

def hexValue? (c : Char) : Option Nat :=
  if '0' ≤ c && c ≤ '9' then some (c.toNat - 48)
  else if 'a' ≤ c && c ≤ 'f' then some (c.toNat - 87)
  else if 'A' ≤ c && c ≤ 'F' then some (c.toNat - 55)
  else none

/-- Four hexadecimal digits. With fewer than four bytes left the text counts as cut off. -/
def takeHex4 : Reader Nat := fun cs =>
  if Text.byteLength (cs.take 4) < 4 then .error .truncated
  else
    match cs with
    | a :: b :: c :: d :: rest =>
      match hexValue? a, hexValue? b, hexValue? c, hexValue? d with
      | some a, some b, some c, some d => .ok (((a * 16 + b) * 16 + c) * 16 + d, rest)
      | _, _, _, _ => .error .malformed
    | _ => .error .malformed

/-- The character of a `\u` escape, after its `u`. The two halves of a pair make one character; a
half that stands alone is refused. -/
def takeUnicodeEscape : Reader Char := fun cs => do
  let (code, cs) ← takeHex4 cs
  if 0xdc00 ≤ code && code ≤ 0xdfff then .error .malformed
  else if 0xd800 ≤ code && code ≤ 0xdbff then do
    let ((), cs) ← takeWord ['\\', 'u'] cs
    let (low, cs) ← takeHex4 cs
    if 0xdc00 ≤ low && low ≤ 0xdfff then
      .ok (Char.ofNat (0x10000 + (code - 0xd800) * 0x400 + (low - 0xdc00)), cs)
    else .error .malformed
  else .ok (Char.ofNat code, cs)

/-- The meaning of the letter of a short escape. -/
def shortEscape? : Char → Option Char
  | '"' => some '"'
  | '\\' => some '\\'
  | '/' => some '/'
  | 'b' => some '\x08'
  | 'f' => some '\x0c'
  | 'n' => some '\n'
  | 'r' => some '\r'
  | 't' => some '\t'
  | _ => none

/-- The characters of a string up to its closing quote. Each round takes at least one character,
so as many rounds as there are characters suffice. -/
def takeStringRest : Nat → List Char → Reader String
  | 0, _, _ => .error .truncated
  | fuel + 1, taken, cs =>
    match cs with
    | [] => .error .truncated
    | '"' :: rest => .ok (String.ofList taken.reverse, rest)
    | '\\' :: [] => .error .truncated
    | '\\' :: 'u' :: rest => do
      let (c, rest) ← takeUnicodeEscape rest
      takeStringRest fuel (c :: taken) rest
    | '\\' :: letter :: rest =>
      match shortEscape? letter with
      | some c => takeStringRest fuel (c :: taken) rest
      | none => .error .malformed
    | c :: rest =>
      if c.toNat < 0x20 then .error .malformed else takeStringRest fuel (c :: taken) rest

/-- A string after its opening quote. -/
def takeString : Reader String := fun cs =>
  takeStringRest (cs.length + 1) [] cs

/-- Skips a string after its opening quote; halves of pairs may stand alone here. -/
def skipStringRest : Nat → Reader Unit
  | 0, _ => .error .truncated
  | fuel + 1, cs =>
    match cs with
    | [] => .error .truncated
    | '"' :: rest => .ok ((), rest)
    | '\\' :: [] => .error .truncated
    | '\\' :: 'u' :: rest => do
      let (_, rest) ← takeHex4 rest
      skipStringRest fuel rest
    | '\\' :: letter :: rest =>
      if (shortEscape? letter).isSome then skipStringRest fuel rest else .error .malformed
    | c :: rest => if c.toNat < 0x20 then .error .malformed else skipStringRest fuel rest

def skipString : Reader Unit := fun cs =>
  skipStringRest (cs.length + 1) cs

/-- The characters of a number: its digits before and after the point, its exponent. -/
structure NumberText where
  whole : List Char
  /-- The digits after the point; a point has at least one. -/
  places : List Char
  /-- Sign and digits of the exponent, if one is written. -/
  exponent : Option (Bool × List Char)

/-- At least one digit. -/
def takeDigits : Reader (List Char) := fun cs =>
  match cs.takeWhile Char.isDigit with
  | [] => .error (faultAt cs)
  | digits => .ok (digits, cs.dropWhile Char.isDigit)

/-- The digits before the point: a zero stands alone. -/
def takeWhole : Reader (List Char)
  | '0' :: rest =>
    match rest with
    | c :: _ => if c.isDigit then .error .malformed else .ok (['0'], rest)
    | [] => .ok (['0'], rest)
  | cs => takeDigits cs

def takePlaces : Reader (List Char)
  | '.' :: rest => takeDigits rest
  | cs => .ok ([], cs)

def takeExponent : Reader (Option (Bool × List Char))
  | c :: rest =>
    if c == 'e' || c == 'E' then
      match rest with
      | '-' :: rest => (takeDigits rest).map fun (digits, rest) => (some (true, digits), rest)
      | '+' :: rest => (takeDigits rest).map fun (digits, rest) => (some (false, digits), rest)
      | _ => (takeDigits rest).map fun (digits, rest) => (some (false, digits), rest)
    else .ok (none, c :: rest)
  | [] => .ok (none, [])

/-- A number after its sign, as text. -/
def takeNumberText : Reader NumberText := fun cs => do
  let (whole, cs) ← takeWhole cs
  let (places, cs) ← takePlaces cs
  let (exponent, cs) ← takeExponent cs
  .ok ({ whole, places, exponent }, cs)

def digitsValue (digits : List Char) : Nat :=
  digits.foldl (fun n c => n * 10 + (c.toNat - 48)) 0

/-- The longest run of leading digits whose value fits 64 bits, with the digits left over. -/
def fittingDigits (value : Nat) : List Char → Nat × List Char
  | [] => (value, [])
  | c :: rest =>
    let next := value * 10 + (c.toNat - 48)
    if next < Nat.pow 2 64 then fittingDigits next rest else (value, c :: rest)

/-- A power of ten as the nearest double. -/
def powerOfTen (n : Nat) : Double := .ofDecimal 1 n

/-- `significand * 10 ^ exponent` by one rounded step per power of ten; none if it is too large.
Powers beyond `10 ^ 308` are applied in turns. -/
def scale : Nat → Double → Int → Option Double
  | 0, value, _ => some value
  | fuel + 1, value, exponent =>
    if 308 < exponent then if value = .zero then some value else none
    else if exponent < -308 then
      if value = .zero then some value
      else scale fuel (value.divide (powerOfTen 308)) (exponent + 308)
    else if 0 ≤ exponent then
      let product := value.multiply (powerOfTen exponent.toNat)
      if product.isFinite then some product else none
    else some (value.divide (powerOfTen (-exponent).toNat))

/-- The value of the magnitude of a floating-point number. Its leading digits, as many as fit 64
bits, are scaled; digits beyond them count as zeros. None if it is too large. -/
def floatMagnitude (text : NumberText) : Option Double :=
  let (whole, surplus) := fittingDigits 0 text.whole
  let (significand, rest) :=
    if surplus.isEmpty then fittingDigits whole text.places else (whole, text.places)
  let shift : Int := (surplus.length : Int) -
    (if surplus.isEmpty then text.places.length - rest.length else 0 : Nat)
  let written : Int :=
    match text.exponent with
    | some (true, digits) => -(digitsValue digits : Int)
    | some (false, digits) => digitsValue digits
    | none => 0
  let exponent := written + shift
  if significand = 0 then some .zero
  else if exponent < -1000 then some .zero
  else scale 4 (Double.nearest significand 1) exponent

/-- The number a text with this sign stands for. Whole numbers of 64 bits are exact; minus zero is
a floating-point number. -/
def numberOf (negative : Bool) (text : NumberText) : Option JsonNumber :=
  let value := digitsValue text.whole
  let isWhole := text.places.isEmpty && text.exponent.isNone
  if isWhole && !negative && value < Nat.pow 2 64 then some (.int value)
  else if isWhole && negative && 0 < value && value ≤ Nat.pow 2 63 then some (.int (-value))
  else (floatMagnitude text).map fun magnitude =>
    .float (if negative then magnitude.negate else magnitude)

/-- A number. -/
def takeNumber : Reader JsonNumber := fun cs => do
  let (negative, cs) := match cs with
    | '-' :: rest => (true, rest)
    | _ => (false, cs)
  let (text, cs) ← takeNumberText cs
  match numberOf negative text with
  | some value => .ok (value, cs)
  | none => .error .malformed

def skipNumber : Reader Unit := fun cs => do
  let (_, cs) ← takeNumberText (match cs with | '-' :: rest => rest | _ => cs)
  .ok ((), cs)

/-- The name of a member, from its opening quote, and the colon after it. -/
def takeName (cs : List Char) : Except Fault (String × List Char) := do
  match skipBlanks cs with
  | '"' :: rest => do
    let (name, rest) ← takeString rest
    .ok (name, rest)
  | other => .error (faultAt other)

mutual

/-- A value that is kept, with `depth` levels of nesting to spare. Every round and every level
takes a character, so twice as many rounds as there are characters suffice. -/
def takeValue : Nat → Nat → Reader Json
  | 0, _, _ => .error .malformed
  | fuel + 1, depth, cs =>
    match skipBlanks cs with
    | [] => .error .truncated
    | 'n' :: rest => (takeWord ['u', 'l', 'l'] rest).map fun (_, rest) => (.null, rest)
    | 't' :: rest => (takeWord ['r', 'u', 'e'] rest).map fun (_, rest) => (.bool true, rest)
    | 'f' :: rest => (takeWord ['a', 'l', 's', 'e'] rest).map fun (_, rest) => (.bool false, rest)
    | '"' :: rest => (takeString rest).map fun (text, rest) => (.string text, rest)
    | '[' :: rest =>
      match depth with
      | 0 => .error .malformed
      | depth + 1 => (takeItems fuel depth true rest).map fun (items, rest) => (.array items, rest)
    | '\x7b' :: rest =>
      match depth with
      | 0 => .error .malformed
      | depth + 1 =>
        (takeMembers fuel depth true rest).map fun (members, rest) => (ofMembers members, rest)
    | c :: rest =>
      if c == '-' || c.isDigit then
        (takeNumber (c :: rest)).map fun (value, rest) => (.number value, rest)
      else .error .malformed

/-- The items of an array up to its closing bracket; `first` before any item was taken. -/
def takeItems : Nat → Nat → Bool → Reader (List Json)
  | 0, _, _, _ => .error .malformed
  | fuel + 1, depth, first, cs =>
    match skipBlanks cs with
    | ']' :: rest => .ok ([], rest)
    | start => do
      let ((), start) ← if first then .ok ((), start) else takeMark ',' start
      let (item, rest) ← takeValue fuel depth start
      let (items, rest) ← takeItems fuel depth false rest
      .ok (item :: items, rest)

/-- The members of an object up to its closing brace, in the order they are written. -/
def takeMembers : Nat → Nat → Bool → Reader (List (String × Json))
  | 0, _, _, _ => .error .malformed
  | fuel + 1, depth, first, cs =>
    match skipBlanks cs with
    | '\x7d' :: rest => .ok ([], rest)
    | start => do
      let ((), start) ← if first then .ok ((), start) else takeMark ',' start
      let (name, rest) ← takeName start
      let ((), rest) ← takeMark ':' rest
      let (value, rest) ← takeValue fuel depth rest
      let (members, rest) ← takeMembers fuel depth false rest
      .ok ((name, value) :: members, rest)

end

mutual

/-- Skips a value, to any depth. -/
def skipValue : Nat → Reader Unit
  | 0, _ => .error .malformed
  | fuel + 1, cs =>
    match skipBlanks cs with
    | [] => .error .truncated
    | 'n' :: rest => takeWord ['u', 'l', 'l'] rest
    | 't' :: rest => takeWord ['r', 'u', 'e'] rest
    | 'f' :: rest => takeWord ['a', 'l', 's', 'e'] rest
    | '"' :: rest => skipString rest
    | '[' :: rest => skipItems fuel true rest
    | '\x7b' :: rest => skipMembers fuel true rest
    | c :: rest => if c == '-' || c.isDigit then skipNumber (c :: rest) else .error .malformed

def skipItems : Nat → Bool → Reader Unit
  | 0, _, _ => .error .malformed
  | fuel + 1, first, cs =>
    match skipBlanks cs with
    | ']' :: rest => .ok ((), rest)
    | start => do
      let ((), start) ← if first then .ok ((), start) else takeMark ',' start
      let ((), rest) ← skipValue fuel start
      skipItems fuel false rest

def skipMembers : Nat → Bool → Reader Unit
  | 0, _, _ => .error .malformed
  | fuel + 1, first, cs =>
    match skipBlanks cs with
    | '\x7d' :: rest => .ok ((), rest)
    | start => do
      let ((), start) ← if first then .ok ((), start) else takeMark ',' start
      let ((), rest) ← match skipBlanks start with
        | '"' :: rest => skipString rest
        | other => .error (faultAt other)
      let ((), rest) ← takeMark ':' rest
      let ((), rest) ← skipValue fuel rest
      skipMembers fuel false rest

end

/-- Enough rounds for any value in a text. -/
def roundsFor (cs : List Char) : Nat := 2 * cs.length + 2

/-- Only blanks may follow the value of a text. -/
def expectEnd (cs : List Char) : Except Fault Unit :=
  if (skipBlanks cs).isEmpty then .ok () else .error .malformed

/-- The value of a whole text. -/
def read (text : String) : Except Fault Json := do
  let cs := text.toList
  let (value, rest) ← takeValue (roundsFor cs) nestingLimit cs
  expectEnd rest
  .ok value

end PropTrace.Json

import PropTrace.Grammar.Point

/-!
Escapes of strings, templates and names. A string is a sequence of characters and of halves of
surrogate pairs that stand alone.
-/
namespace PropTrace.Grammar

/-- One unit of the value of a string. -/
inductive StringUnit where
  | char (c : Char)
  /-- Half of a surrogate pair. -/
  | half (code : Nat)
  deriving DecidableEq, Repr

namespace StringUnit

/-- The mark that stands for what no character can stand for. -/
def replacement : Char := '\ufffd'

/-- A code point, or half of a pair; none beyond the last code point. -/
def ofCode? (code : Nat) : Option StringUnit :=
  if 0xd800 ≤ code && code ≤ 0xdfff then some (.half code)
  else if code < 0x110000 then some (.char (Char.ofNat code))
  else none

def isHalf : StringUnit → Bool
  | half _ => true
  | char _ => false

/-- A unit in a text that has halves: a half is the replacement mark with the digits of its code,
and so is the mark itself. -/
def lossy : StringUnit → List Char
  | half code => replacement :: Nat.toDigits 16 code
  | char c => if c = replacement then replacement :: Nat.toDigits 16 c.toNat else [c]

def plain : StringUnit → List Char
  | char c => [c]
  | half _ => []

/-- The text of a string's value. -/
def text (units : List StringUnit) : String :=
  String.ofList (if units.any isHalf then units.flatMap lossy else units.flatMap plain)

end StringUnit

def hexDigit? (c : Char) : Option Nat :=
  if '0' ≤ c && c ≤ '9' then some (c.toNat - 48)
  else if 'a' ≤ c && c ≤ 'f' then some (c.toNat - 87)
  else if 'A' ≤ c && c ≤ 'F' then some (c.toNat - 55)
  else none

/-- Exactly `count` hexadecimal digits. -/
def hexDigits? : Nat → Nat → Point → Option (Nat × Point)
  | 0, value, p => some (value, p)
  | count + 1, value, p => do
    let digit ← hexDigit? (← p.peek?)
    hexDigits? count (value * 16 + digit) p.step

/-- The code of a `\u` escape after its `u`: four digits, or any number of them in braces. -/
def unicodeCode? (p : Point) : Option (Nat × Point) :=
  if p.peek? = some '\x7b' then
    let (digits, after) := p.step.takeWhile fun c => (hexDigit? c).isSome
    let code := digits.foldl (fun value c => value * 16 + (hexDigit? c).getD 0) 0
    if !digits.isEmpty && code < 0x110000 && after.peek? = some '\x7d' then
      some (code, after.step)
    else none
  else hexDigits? 4 0 p

/-- The second half of a pair, written as an escape of its own. -/
def lowHalf? (p : Point) : Option (Nat × Point) :=
  match p.rest with
  | '\\' :: 'u' :: _ => do
    let (code, after) ← hexDigits? 4 0 (p.skip 2)
    if 0xdc00 ≤ code && code ≤ 0xdfff then some (code, after) else none
  | _ => none

/-- A `\u` escape after its `u`. Two halves with four digits each make one character. -/
def unicodeEscape? (p : Point) : Option (StringUnit × Point) := do
  let (code, after) ← unicodeCode? p
  if p.peek? ≠ some '\x7b' && 0xd800 ≤ code && code ≤ 0xdbff then
    match lowHalf? after with
    | some (low, after) =>
      some (.char (Char.ofNat (0x10000 + (code - 0xd800) * 0x400 + (low - 0xdc00))), after)
    | none => some (.half code, after)
  else
    let unit ← StringUnit.ofCode? code
    some (unit, after)

/-- The character of a one-letter escape. -/
def letterEscape? : Char → Option Char
  | 'n' => some '\n'
  | 't' => some '\t'
  | 'r' => some '\r'
  | 'b' => some '\x08'
  | 'v' => some '\x0b'
  | 'f' => some '\x0c'
  | _ => none

def isOctal (c : Char) : Bool := '0' ≤ c && c ≤ '7'

/-- An octal escape: up to three digits with a value below 256. -/
def octalEscape (p : Point) : StringUnit × Point :=
  let (digits, _) := p.takeWhile isOctal
  let digits := digits.take (if digits.head?.any (· ≤ '3') then 3 else 2)
  let code := digits.foldl (fun value c => value * 8 + (c.toNat - 48)) 0
  (.char (Char.ofNat code), p.skip digits.length)

/-- An escape after its backslash: the units it stands for, and the point after it. A backslash
before a line end stands for nothing. -/
def escape? (p : Point) : Option (List StringUnit × Point) :=
  match p.rest with
  | [] => none
  | '\r' :: '\n' :: _ => some ([], p.skip 2)
  | 'x' :: _ => do
    let (code, after) ← hexDigits? 2 0 p.step
    some ([.char (Char.ofNat code)], after)
  | 'u' :: _ => do
    let (unit, after) ← unicodeEscape? p.step
    some ([unit], after)
  | c :: _ =>
    if Text.isLineEnd c then some ([], p.step)
    else if isOctal c then
      let (unit, after) := octalEscape p
      some ([unit], after)
    else some ([.char ((letterEscape? c).getD c)], p.step)

/-- Whether an escape may stand in a template without a tag: octal ones may not, except for a lone
zero. -/
def isTemplateEscape (p : Point) : Bool :=
  match p.rest with
  | '0' :: c :: _ => !c.isDigit && (escape? p).isSome
  | c :: _ => !('1' ≤ c && c ≤ '9') && (escape? p).isSome
  | [] => false

end PropTrace.Grammar

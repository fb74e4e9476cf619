import PropTrace.Json.Value
import PropTrace.Text.Quoted

/-!
JSON text of a value: no blanks, members in their order, and only what must be escaped is.
-/
namespace PropTrace.Json

/-- One character inside a JSON string. -/
def escapeChar (c : Char) : List Char :=
  match c with
  | '"' => ['\\', '"']
  | '\\' => ['\\', '\\']
  | _ =>
    if c.toNat < 0x20 then
      let digits := Text.hexDigits c.toNat
      ['\\', 'u'] ++ List.replicate (4 - digits.length) '0' ++ digits
    else [c]

def escapeString (text : String) : String :=
  String.ofList (['"'] ++ text.toList.flatMap escapeChar ++ ['"'])

def numberText : JsonNumber → String
  | .int value => toString value
  | .float value => value.text

mutual

/-- The text of a value. -/
def render : Json → String
  | .null => "null"
  | .bool true => "true"
  | .bool false => "false"
  | .number value => numberText value
  | .string value => escapeString value
  | .array items => "[" ++ renderItems items ++ "]"
  | .object members => "\x7b" ++ renderMembers members ++ "\x7d"

def renderItems : List Json → String
  | [] => ""
  | [item] => render item
  | item :: rest => render item ++ "," ++ renderItems rest

def renderMembers : List (String × Json) → String
  | [] => ""
  | [(name, value)] => escapeString name ++ ":" ++ render value
  | (name, value) :: rest => escapeString name ++ ":" ++ render value ++ "," ++ renderMembers rest

end

end PropTrace.Json

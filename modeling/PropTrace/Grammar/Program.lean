import PropTrace.Grammar.Jsx
import PropTrace.Grammar.Statement

/-!
Whole programs. The rules ask each other for phrases through a grammar with a limited depth; the
depth is counted from the length of the text, for no phrase contains more phrases in each other than
a small multiple of its characters.
-/
namespace PropTrace

namespace Grammar

open PropTrace.Grammar.Parser

/-- The rule of every phrase. -/
def rule (self : Phrases) : Phrases
  | .assignment returnTypes => assignment self returnTypes
  | .binary level => binary self level
  | .unary => unary self
  | .leftHand => leftHand self
  | .callee => callee self
  | .statement => statement self
  | .pattern => pattern self
  | .target => target self
  | .type => type self
  | .operatorType => operatorType self
  | .jsx => jsx self

/-- The grammar with phrases up to a depth. -/
def ofDepth : Nat → Phrases
  | 0 => fun _ => fail
  | depth + 1 => fun goal => rule (ofDepth depth) goal

/-- Statements up to the end of the text. -/
def allStatements (self : Phrases) : Parser (List (Syntax .statement)) :=
  many do
    if (← token).kind == .endOfText then return none
    return some (← self .statement)

end Grammar

open Grammar in
/-- Reads a module; none if it has a syntax error. -/
def Program.ofText? (text : String) : Option Program := do
  let start := fileStart text
  let length := text.length + 1
  let (body, _) := allStatements (ofDepth (10 * length)) { rounds := length }
    { token := .scan start, behind := start, failures := [] }
  let body ← body
  some { body := listOf (body.dropWhile isDirective), span := ⟨0, text.utf8ByteSize⟩ }

end PropTrace

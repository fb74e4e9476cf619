import PropTrace.Text.Location

/-!
Reports of a rule about a place in a file.
-/
namespace PropTrace

structure Diagnostic where
  rule : String
  message : String
  file : String
  location : Location
  span : Span
  deriving DecidableEq, Repr

namespace Diagnostic

/-- A report about a span of a source; its line and column are those of the start. -/
def about (rule message file source : String) (span : Span) : Diagnostic where
  rule := rule
  message := message
  file := file
  location := .ofOffset source span.start
  span := span

/-- One line for people. -/
def display (d : Diagnostic) : String :=
  d.file ++ ":" ++ toString d.location.line ++ ":" ++ toString d.location.column ++ ": " ++
    d.message ++ " [" ++ d.rule ++ "]"

/-- The order of a report list: by start, then by rule. -/
def precedes (a b : Diagnostic) : Bool :=
  a.span.start < b.span.start || a.span.start == b.span.start && a.rule ≤ b.rule

end Diagnostic

end PropTrace

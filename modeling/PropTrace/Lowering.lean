import PropTrace.Grammar.Program
import PropTrace.Outline.Build
import PropTrace.Syntax.Outline

/-!
From the text of a file to its unit: the text is read as a program, the program is outlined, and the
outline is built.
-/
namespace PropTrace

/-- The unit of a program. -/
def Program.toUnit (program : Program) (file source : String) : SourceUnit :=
  program.outline.toUnit file source

/-- Reads the source of a file; none if it has a syntax error. -/
def SourceUnit.ofText? (file source : String) : Option SourceUnit :=
  (Program.ofText? source).map fun program => program.toUnit file source

end PropTrace

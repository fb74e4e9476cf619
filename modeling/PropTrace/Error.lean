import PropTrace.Json.Reader
import PropTrace.Rule.Options

/-!
What can go wrong around linting. Attributes that are not checked, names without a declaration and
exempt elements are no errors.
-/
namespace PropTrace

inductive LintError where
  /-- The source of this file has a syntax error. -/
  | parse (file : String)
  | invalidOptions (rule : String) (fault : OptionsFault)
  | invalidConfig (fault : Json.Fault)
  | unknownRule (name : String)
  /-- The file cannot be read as text. -/
  | unreadable (path : String)
  /-- The directory cannot be walked. -/
  | walk (path : String)

namespace LintError

def message : LintError → String
  | parse file => "failed to parse " ++ file
  | invalidOptions rule fault => "invalid options for rule `" ++ rule ++ "`: " ++ fault.message
  | invalidConfig _ => "invalid lint configuration"
  | unknownRule name => "unknown rule `" ++ name ++ "`"
  | unreadable path => "failed to read " ++ path
  | walk path => "failed to walk directory " ++ path

end LintError

end PropTrace

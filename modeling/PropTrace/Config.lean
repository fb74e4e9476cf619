import PropTrace.Json.Record
import PropTrace.Rule.Options

/-!
The configuration of a linter: what is written beside the name of each rule, and the settings of
the project.
-/
namespace PropTrace

structure LintConfig where
  /-- Names of rules in ascending order, each with its options, `true` or `false`. -/
  rules : List (String × Json) := []
  settings : Settings := {}

namespace Settings

/-- Reads settings from JSON text. -/
def take : Json.Reader Settings :=
  Json.takeRecord [("next", fun settings cs =>
    (Json.takeFlag cs).map fun (next, rest) => ({ settings with next }, rest))] {}

def toJson (settings : Settings) : Json :=
  .object [("next", Json.ofOption Json.bool settings.next)]

end Settings

namespace LintConfig

/-- The fields of a configuration. Rules stand one level deep. -/
def fields : Json.Fields LintConfig :=
  [("rules", fun config cs =>
      (Json.takeObject (Json.nestingLimit - 1) cs).map fun (rules, rest) =>
        ({ config with rules }, rest)),
    ("settings", fun config cs =>
      (Settings.take cs).map fun (settings, rest) => ({ config with settings }, rest))]

/-- Reads a whole text. -/
def ofText (text : String) : Except Json.Fault LintConfig := do
  let (config, rest) ← Json.takeRecord fields {} text.toList
  Json.expectEnd rest
  .ok config

def toJson (config : LintConfig) : Json :=
  .object [("rules", .object config.rules), ("settings", config.settings.toJson)]

end LintConfig

end PropTrace

import PropTrace.Config
import PropTrace.Error
import PropTrace.Lowering
import PropTrace.Rule.Builtin

/-!
A linter holds rules with their options and checks all of them in one walk over a unit. Each rule
keeps its own context, so the reports of one rule do not depend on the others; the result lists
all reports by start and rule.
-/
namespace PropTrace

/-- A rule under the name it reports with. -/
structure RegisteredRule where
  name : String
  rule : Rule
  options : RuleOptions

structure Linter where
  rules : List RegisteredRule := []
  settings : Settings := {}

namespace Linter

/-- Registers one more rule. -/
def withRule (linter : Linter) (name : String) (rule : Rule) (options : RuleOptions) : Linter :=
  { linter with rules := linter.rules ++ [{ name, rule, options }] }

/-- Every built-in rule with default options. -/
def recommended : Linter where
  rules := Builtin.all.map fun builtin =>
    { name := builtin.name, rule := builtin.rule, options := {} }

/-- Registers what a configuration says of one rule. A rule set to `false` is passed over without
looking at its name. -/
def withEntry (linter : Linter) (name : String) (value : Json) : Except LintError Linter :=
  match value with
  | .bool false => .ok linter
  | value =>
    match Builtin.ofName? name with
    | none => .error (.unknownRule name)
    | some builtin =>
      match RuleOptions.ofJson value with
      | .ok options => .ok (linter.withRule name builtin.rule options)
      | .error fault => .error (.invalidOptions name fault)

/-- The linter of a configuration; the first faulty entry in the order of the names is the error. -/
def ofConfig (config : LintConfig) : Except LintError Linter :=
  config.rules.foldlM (fun linter (name, value) => linter.withEntry name value)
    { settings := config.settings }

def ruleNames (linter : Linter) : List String := linter.rules.map RegisteredRule.name

/-- Every rule with a fresh context. -/
def contexts (linter : Linter) (unit : SourceUnit) : List (Rule × RuleContext) :=
  linter.rules.map fun registered =>
    (registered.rule, {
      rule := registered.name, unit, options := registered.options, settings := linter.settings })

/-- Lets every rule check an attribute. -/
def dispatch (contexts : List (Rule × RuleContext)) (attr : NodeId) : List (Rule × RuleContext) :=
  contexts.map fun (rule, context) => (rule, (rule.check context attr).2)

/-- Reports of all rules about a unit. -/
def lintUnit (linter : Linter) (unit : SourceUnit) : List Diagnostic :=
  let checked := unit.tree.walkedAttributes.foldl dispatch (linter.contexts unit)
  (checked.flatMap fun (_, context) => context.diagnostics).mergeSort Diagnostic.precedes

/-- Reports of all rules about the source of a file. -/
def lintSource (linter : Linter) (file source : String) : Except LintError (List Diagnostic) :=
  match SourceUnit.ofText? file source with
  | some unit => .ok (linter.lintUnit unit)
  | none => .error (.parse file)

end Linter

end PropTrace

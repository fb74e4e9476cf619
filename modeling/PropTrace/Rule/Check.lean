import PropTrace.Diagnostic
import PropTrace.Element
import PropTrace.Origin
import PropTrace.Rule.Options
import PropTrace.Tree.Walk

/-!
Rules about JSX attributes. A rule is a message and a predicate on expressions. It looks at an
attribute whose value is an expression container, follows the expression to its origins, and
reports every origin that satisfies the predicate.

Two things keep a rule from looking: the directive gate is closed, or the element is native and on
the allow list.
-/
namespace PropTrace

structure Rule where
  description : String
  message : String
  /-- Whether an origin is reported. -/
  isViolation : SyntaxTree → NodeId → Bool

namespace Rule

/-- The group a rule is documented under. -/
def category (_ : Rule) : String := ""

/-- Every rule belongs to the recommended set. -/
def recommended (_ : Rule) : Bool := true

/-- What a host is told about a rule. -/
def metadata (rule : Rule) : Json :=
  .object [
    ("docs", .object [("category", .string rule.category),
      ("description", .string rule.description), ("recommended", .bool rule.recommended)]),
    ("schema", RuleOptions.schema)]

end Rule

/-- The directive that opens a file for the client. -/
def useClient : String := "use client"

/-- What a rule works with in one unit, and the reports it made there so far. -/
structure RuleContext where
  rule : String
  unit : SourceUnit
  options : RuleOptions
  settings : Settings
  diagnostics : List Diagnostic := []

namespace RuleContext

/-- Whether attributes are checked at all: the directive is not asked for, or it stands in the
first line. -/
def gateOpen (context : RuleContext) : Bool :=
  !context.options.nextEnabled context.settings ||
    Text.containsPhrase useClient.toList (Text.trim (Text.firstLine context.unit.source.toList))

/-- Whether the element of an attribute is on the allow list. -/
def exempts (context : RuleContext) (attr : NodeId) : Bool :=
  match context.options.nativeAllowList, context.unit.tree.tagName? attr with
  | some list, some tag => isNativeTag tag && list.exempts tag
  | _, _ => false

/-- Adds a report about a node. -/
def report (context : RuleContext) (message : String) (id : NodeId) : RuleContext :=
  let span := ((context.unit.tree.node? id).map Node.span).getD ⟨0, 0⟩
  { context with diagnostics := context.diagnostics ++
      [.about context.rule message context.unit.file context.unit.source span] }

end RuleContext

/-- The expression in the container that is the value of an attribute. -/
def SyntaxTree.containedExpression? (tree : SyntaxTree) (attr : NodeId) : Option NodeId :=
  match tree.kind? attr with
  | some (.jsxAttribute _ (some value)) =>
    match tree.kind? value with
    | some (.jsxContainer expression) => some expression
    | _ => none
  | _ => none

namespace Rule

/-- The origins of an attribute's value that a rule reports. -/
def violations (rule : Rule) (context : RuleContext) (attr : NodeId) : List NodeId :=
  if !context.gateOpen then []
  else
    match context.unit.tree.containedExpression? attr with
    | none => []
    | some expression =>
      if context.exempts attr then []
      else (context.unit.origins expression).filter (rule.isViolation context.unit.tree)

/-- Checks one attribute: whether anything was reported, and the context with the reports. -/
def check (rule : Rule) (context : RuleContext) (attr : NodeId) : Bool × RuleContext :=
  let found := rule.violations context attr
  (!found.isEmpty, found.foldl (fun context id => context.report rule.message id) context)

end Rule

end PropTrace

import PropTrace.Syntax.Program

/-!
The outline of a program. Wrappers disappear, functions, blocks, loops, `switch` and `catch` open
scopes, and forms that no rule tells apart keep their parts under a label.

Some forms are outlined without parts that could hold expressions: computed keys and decorators of
classes, enumerations, the bodies of dotted and exported namespaces, targets in the head of a loop,
operands of `++` other than names, and defaults inside a rest parameter.
-/
namespace PropTrace

namespace Syntax

/-- The names a pattern or a list of parameters binds, in source order. -/
def boundNames : {c : Category} → Syntax c → List Name
  | _, .cons first rest => first.boundNames ++ rest.boundNames
  | _, .present value => value.boundNames
  | _, .parameter _ pattern _ _ => pattern.boundNames
  | _, .boundName name => [name]
  | _, .objectPattern properties rest _ => properties.boundNames ++ rest.boundNames
  | _, .arrayPattern elements rest _ => elements.boundNames ++ rest.boundNames
  | _, .defaultPattern target _ _ => target.boundNames
  | _, .patternMember _ value => value.boundNames
  | _, _ => []

/-- The name an assignment writes to, if the target is a plain name but for parentheses. -/
def writtenName? : {c : Category} → Syntax c → Option Name
  | _, .targetName name => some name
  | _, .targetWrapped .parentheses inner _ => inner.writtenName?
  | _, _ => none

/-- Whether the last link of an optional chain is a call or a member with a public key. -/
def isPlainLink : Syntax .expr → Bool
  | .call .. | .member .. | .index .. => true
  | _ => false

/-- Whether a statement declares variables, a function or a class. -/
def isValueDeclaration : {c : Category} → Syntax c → Bool
  | _, .variableDecl _ | _, .functionDecl _ | _, .classDecl _ => true
  | _, .present value => value.isValueDeclaration
  | _, _ => false

end Syntax

/-- The place of the names of a variable declaration. -/
def DeclarationKind.place : DeclarationKind → BindingPlace
  | var => .hoisted
  | lexical => .here

def ClassKind.label : ClassKind → String
  | declaration => "ClassDeclaration"
  | expression => "ClassExpression"

def IterationKind.label : IterationKind → String
  | keys => "ForInStatement"
  | values => "ForOfStatement"

def JsxName.outline : JsxName → Outline
  | plain name span => .node (.jsxIdentifier name) span []
  | namespaced space name span => .node (.jsxNamespacedName space name) span []
  | path text span => .node (.jsxMember text) span []

/-- The rest parameter: its names in a node of their own, without those that are bound already. -/
def restOutline (bound : List String) (names : List Name) (span : Span) : List Outline :=
  match names.filter fun name => !bound.contains name.text with
  | [] => []
  | fresh => [.labeled "RestElement" span (fresh.map fun name => .bind name .here)]

/-- A function from its name and the outlines of its parameters and its body. The name of a
declaration belongs to the scope around it, any other name to the function itself. -/
def functionOutline (kind : FunctionKind) (name : Option Name) (params body : List Outline)
    (span : Span) : Outline :=
  let named := name.toList.map fun name => Outline.bind name .here
  let shape := Shape.function kind name.isSome params.length
  match kind with
  | .declaration => .region shape span named .function (params ++ body)
  | _ => .region shape span [] .function (named ++ params ++ body)

/-- The names that stand in a function's own scope before its rest parameter. -/
def namesBeforeRest (kind : FunctionKind) (name : Option Name) (params : List Name) :
    List String :=
  (if kind = .declaration then [] else name.toList.map Name.text) ++ params.map Name.text

namespace Syntax

/-- The outlines of a phrase. `place` says where the names of a pattern belong. -/
def outline : {c : Category} → BindingPlace → Syntax c → List Outline
  | _, _, .nil => []
  | _, place, .cons first rest => first.outline place ++ rest.outline place
  | _, _, .absent => []
  | _, place, .present value => value.outline place
  -- expressions
  | _, _, .literal value span => [.node (.literal value) span []]
  | _, _, .identifier name => [.use name]
  | _, _, .template parts span => [.labeled "TemplateLiteral" span (parts.outline .here)]
  | _, _, .tagged tag parts span =>
    [.labeled "TaggedTemplateExpression" span (tag.outline .here ++ parts.outline .here)]
  | _, _, .logical operator left right span =>
    [.node (.logical operator) span (left.outline .here ++ right.outline .here)]
  | _, _, .binary left right span =>
    [.labeled "BinaryExpression" span (left.outline .here ++ right.outline .here)]
  | _, _, .privateIn _ _ span => [.labeled "Expression" span []]
  | _, _, .unary operand span => [.labeled "UnaryExpression" span (operand.outline .here)]
  | _, _, .update operand span =>
    [.labeled "UpdateExpression" span (operand.writtenName?.toList.map .use)]
  | _, _, .conditional test consequent alternate span =>
    [.node .conditional span
      (test.outline .here ++ consequent.outline .here ++ alternate.outline .here)]
  | _, _, .sequence parts span => [.labeled "SequenceExpression" span (parts.outline .here)]
  | _, _, .call callee arguments span =>
    [.node .call span (callee.outline .here ++ arguments.outline .here)]
  | _, _, .new callee arguments span =>
    [.node .new span (callee.outline .here ++ arguments.outline .here)]
  | _, _, .member base name span => [.node (.member name) span (base.outline .here)]
  | _, _, .index base key span =>
    [.node .index span (base.outline .here ++ key.outline .here)]
  | _, _, .privateMember base name span =>
    [.node (.privateMember name) span (base.outline .here)]
  | _, _, .chain link span =>
    [.labeled "ChainExpression" span (if link.isPlainLink then link.outline .here else [])]
  | _, _, .assign operator target value span =>
    [.node (.assignment operator) span (target.outline .here ++ value.outline .here)]
  | _, _, .functionExpr value => value.outline .here
  | _, _, .classExpr value => value.outline .here
  | _, _, .object properties span => [.node .object span (properties.outline .here)]
  | _, _, .array elements span => [.node .array span (elements.outline .here)]
  | _, _, .jsxExpr value => value.outline .here
  | _, _, .wrapped _ inner _ => inner.outline .here
  | _, _, .await operand span => [.labeled "AwaitExpression" span (operand.outline .here)]
  | _, _, .yield operand span => [.labeled "YieldExpression" span (operand.outline .here)]
  | _, _, .thisExpr span => [.labeled "ThisExpression" span []]
  | _, _, .importCall source _ span => [.labeled "ImportExpression" span (source.outline .here)]
  | _, _, .word span => [.labeled "Expression" span []]
  | _, _, .item value => value.outline .here
  | _, _, .spread value span => [.labeled "SpreadElement" span (value.outline .here)]
  | _, _, .keyed key value span =>
    [.labeled "Property" span (key.outline .here ++ value.outline .here)]
  | _, _, .spreadProperty value span => [.labeled "SpreadElement" span (value.outline .here)]
  -- functions and classes
  | _, _, .func kind name params rest restSpan body span =>
    let rest := restOutline (namesBeforeRest kind name params.boundNames) rest.boundNames restSpan
    [functionOutline kind name (params.outline .here ++ rest) (body.outline .here) span]
  | _, _, .parameter _ pattern .absent _ => pattern.outline .here
  | _, _, .parameter _ pattern (.present initial) span =>
    [.node .assignmentPattern span (pattern.outline .here ++ initial.outline .here)]
  | _, _, .classBody kind _ name parent members span =>
    let named := if kind = .declaration then name.toList.map fun name => .bind name .here else []
    [.labeled kind.label span (named ++ parent.outline .here ++ members.outline .here)]
  | _, _, .method _ _ value => value.outline .here
  | _, _, .field _ _ value => value.outline .here
  | _, _, .staticBlock body span =>
    [.region (.other "StaticBlock") span [] .function (body.outline .here)]
  | _, _, .signature _ _ _ => []
  -- patterns of declarations
  | _, place, .boundName name => [.bind name place]
  | _, place, .objectPattern properties rest span =>
    [.labeled "ObjectPattern" span (properties.outline place ++ rest.outline place)]
  | _, place, .arrayPattern elements rest span =>
    [.labeled "ArrayPattern" span (elements.outline place ++ rest.outline place)]
  | _, place, .defaultPattern target value span =>
    [.node .assignmentPattern span (target.outline place ++ value.outline .here)]
  | _, place, .patternMember key value => key.outline .here ++ value.outline place
  -- targets of assignments
  | _, _, .targetName name => [.use name]
  | _, _, .targetMember base name span => [.node (.member name) span (base.outline .here)]
  | _, _, .targetIndex base key span =>
    [.node .index span (base.outline .here ++ key.outline .here)]
  | _, _, .targetPrivate _ _ span => [.labeled "AssignmentTargetPattern" span []]
  | _, _, .targetWrapped wrapper inner span =>
    if wrapper = .parentheses then inner.outline .here
    else [.labeled "AssignmentTargetPattern" span []]
  | _, _, .targetObject properties rest span =>
    [.labeled "ObjectPattern" span (properties.outline .here ++ rest.outline .here)]
  | _, _, .targetArray elements rest span =>
    [.labeled "ArrayPattern" span (elements.outline .here ++ rest.outline .here)]
  | _, _, .targetDefault target value span =>
    [.node .assignmentPattern span (target.outline .here ++ value.outline .here)]
  | _, _, .shorthand name .absent _ => [.use name]
  | _, _, .shorthand name (.present value) span =>
    [.node .assignmentPattern span (.use name :: value.outline .here)]
  | _, _, .targetKeyed key target span =>
    [.labeled "Property" span (key.outline .here ++ target.outline .here)]
  -- elements
  | _, _, .element name attributes openingSpan children span =>
    [.node .jsxElement span
      (.node .jsxOpening openingSpan (name.outline :: attributes.outline .here) ::
        children.outline .here)]
  | _, _, .fragment children span => [.node .jsxFragment span (children.outline .here)]
  | _, _, .namedAttribute name value span =>
    [.node (.jsxAttribute name) span (value.outline .here)]
  | _, _, .spreadAttribute value span =>
    [.labeled "JSXSpreadAttribute" span (value.outline .here)]
  | _, _, .quoted text span => [.node (.literal (.string text)) span []]
  | _, _, .container .absent span =>
    [.node .jsxContainer span [.labeled "JSXEmptyExpression" span []]]
  | _, _, .container (.present value) span => [.node .jsxContainer span (value.outline .here)]
  | _, _, .nested value => value.outline .here
  | _, _, .spreadChild value span => [.labeled "JSXSpreadChild" span (value.outline .here)]
  -- declarations and clauses
  | _, place, .declare pattern init span =>
    [.node .declarator span (pattern.outline place ++ init.outline .here)]
  | _, _, .variableList kind declarators span =>
    [.labeled "VariableDeclaration" span (declarators.outline kind.place)]
  | _, _, .headVariables value => value.outline .here
  | _, _, .headExpr value => value.outline .here
  | _, _, .headTarget _ => []
  | _, _, .case test body span =>
    [.labeled "SwitchCase" span (test.outline .here ++ body.outline .here)]
  | _, _, .handler param body span =>
    [.region (.other "CatchClause") span [] .block (param.outline .here ++ body.outline .here)]
  -- statements
  | _, _, .expression value span => [.labeled "ExpressionStatement" span (value.outline .here)]
  | _, _, .variableDecl value => value.outline .here
  | _, _, .functionDecl value => value.outline .here
  | _, _, .classDecl value => value.outline .here
  | _, _, .returns value span => [.labeled "ReturnStatement" span (value.outline .here)]
  | _, _, .throws value span => [.labeled "ThrowStatement" span (value.outline .here)]
  | _, _, .block body span =>
    [.region (.other "BlockStatement") span [] .block (body.outline .here)]
  | _, _, .ifElse test consequent alternate span =>
    [.labeled "IfStatement" span
      (test.outline .here ++ consequent.outline .here ++ alternate.outline .here)]
  | _, _, .forLoop head test step body span =>
    [.region (.other "ForStatement") span [] .block
      (head.outline .here ++ test.outline .here ++ step.outline .here ++ body.outline .here)]
  | _, _, .forEach kind head collection body span =>
    [.region (.other kind.label) span [] .block
      (head.outline .here ++ collection.outline .here ++ body.outline .here)]
  | _, _, .whileLoop test body span =>
    [.labeled "WhileStatement" span (test.outline .here ++ body.outline .here)]
  | _, _, .doWhile body test span =>
    [.labeled "DoWhileStatement" span (body.outline .here ++ test.outline .here)]
  | _, _, .labeled _ body span => [.labeled "LabeledStatement" span (body.outline .here)]
  | _, _, .switch discriminant cases span =>
    [.region (.other "SwitchStatement") span (discriminant.outline .here) .block
      (cases.outline .here)]
  | _, _, .tryCatch body clause finalizer span =>
    [.labeled "TryStatement" span
      (body.outline .here ++ clause.outline .here ++ finalizer.outline .here)]
  | _, _, .withObject base body span =>
    [.labeled "WithStatement" span (base.outline .here ++ body.outline .here)]
  | _, _, .exportNamed declaration span =>
    [.labeled "ExportNamedDeclaration" span
      (if declaration.isValueDeclaration then declaration.outline .here else [])]
  | _, _, .exportDefault declaration span =>
    [.labeled "ExportDefaultDeclaration" span
      (if declaration.isValueDeclaration then declaration.outline .here else [])]
  | _, _, .exportDefaultValue value span =>
    [.labeled "ExportDefaultDeclaration" span (value.outline .here)]
  | _, _, .namespaceDecl path body span =>
    [.region (.other "TSModuleDeclaration") span [] .function
      (if path.length = 1 then body.outline .here else [])]
  | _, _, .exportValue _ span => [.labeled "Statement" span []]
  | _, _, .globalDecl _ span => [.labeled "Statement" span []]
  | _, _, .enumDecl _ _ span => [.labeled "Statement" span []]
  | _, _, .plain span => [.labeled "Statement" span []]

end Syntax

/-- The outline of a whole module. -/
def Program.outline (program : Program) : Outline :=
  .node .program program.span (program.body.outline .here)

end PropTrace

import PropTrace.Outline.Basic

/-!
Programs as they are written: JavaScript modules with JSX and TypeScript. Types carry no values and
are left out; so are the words of imports and exports. Every place where an expression can stand is
kept, also where lowering makes no node for it.

All syntax is one family of types, indexed by the category of the phrase, so that a fact about
every phrase of a program is one induction. Spans follow the written form. A wrapper, that is
parentheses or one of the type-only forms, has a constructor of its own in every position where it
can stand.
-/
namespace PropTrace

/-- The kinds of phrases. -/
inductive Category where
  | expr
  /-- An argument of a call or an element of an array. -/
  | argument
  /-- A member of an object literal. -/
  | property
  /-- A function with its parameters and its body. -/
  | functionForm
  | param
  | classForm
  /-- A member of a class. -/
  | member
  /-- What a declaration binds. -/
  | pattern
  /-- A member of an object pattern in a declaration. -/
  | patternProperty
  /-- What an assignment writes to. -/
  | target
  /-- A member of an object pattern on the left of an assignment. -/
  | targetProperty
  | jsx
  | jsxAttribute
  /-- A child of a JSX element or the value of an attribute. -/
  | jsxPart
  | declarator
  /-- A variable declaration. -/
  | declaration
  /-- What stands before the first separator in the head of a loop. -/
  | loopHead
  | switchCase
  | catchClause
  | statement
  /-- Any number of phrases of one category. -/
  | list (of : Category)
  /-- One phrase of a category or none. -/
  | option (of : Category)
  deriving DecidableEq, Repr

/-- Forms around an expression that do not change its value. -/
inductive Wrapper where
  /-- `(e)` -/
  | parentheses
  /-- `e as T` -/
  | asType
  /-- `e satisfies T` -/
  | satisfies
  /-- `e!` -/
  | nonNull
  /-- `<T>e` -/
  | assertion
  /-- `e<T>` -/
  | instantiation
  deriving DecidableEq, Repr

/-- Where the names of a variable declaration belong. -/
inductive DeclarationKind where
  /-- `var`: to the function around it. -/
  | var
  /-- `let`, `const`, `using` and `await using`: to the block around it. -/
  | lexical
  deriving DecidableEq, Repr

/-- How a class is written. -/
inductive ClassKind where
  | declaration | expression
  deriving DecidableEq, Repr

/-- The two loops over a collection. -/
inductive IterationKind where
  | keys | values
  deriving DecidableEq, Repr

/-- The name of a JSX element. -/
inductive JsxName where
  | plain (name : String) (span : Span)
  | namespaced (space name : String) (span : Span)
  /-- A dotted name, as its text. -/
  | path (text : String) (span : Span)
  deriving DecidableEq, Repr

inductive Syntax : Category → Type where
  | nil {c : Category} : Syntax (.list c)
  | cons {c : Category} (first : Syntax c) (rest : Syntax (.list c)) : Syntax (.list c)
  | absent {c : Category} : Syntax (.option c)
  | present {c : Category} (value : Syntax c) : Syntax (.option c)
  | literal (value : LiteralValue) (span : Span) : Syntax .expr
  | identifier (name : Name) : Syntax .expr
  | template (parts : Syntax (.list .expr)) (span : Span) : Syntax .expr
  | tagged (tag : Syntax .expr) (parts : Syntax (.list .expr)) (span : Span) : Syntax .expr
  | logical (operator : LogicalOperator) (left right : Syntax .expr) (span : Span) : Syntax .expr
  | binary (left right : Syntax .expr) (span : Span) : Syntax .expr
  /-- `#name in right` -/
  | privateIn (name : String) (right : Syntax .expr) (span : Span) : Syntax .expr
  | unary (operand : Syntax .expr) (span : Span) : Syntax .expr
  | update (operand : Syntax .target) (span : Span) : Syntax .expr
  | conditional (test consequent alternate : Syntax .expr) (span : Span) : Syntax .expr
  | sequence (parts : Syntax (.list .expr)) (span : Span) : Syntax .expr
  | call (callee : Syntax .expr) (arguments : Syntax (.list .argument)) (span : Span) : Syntax .expr
  | new (callee : Syntax .expr) (arguments : Syntax (.list .argument)) (span : Span) : Syntax .expr
  | member (object : Syntax .expr) (name : String) (span : Span) : Syntax .expr
  | index (object key : Syntax .expr) (span : Span) : Syntax .expr
  | privateMember (object : Syntax .expr) (name : String) (span : Span) : Syntax .expr
  /-- The outermost link of an optional chain. -/
  | chain (link : Syntax .expr) (span : Span) : Syntax .expr
  | assign (operator : AssignmentOperator) (target : Syntax .target) (value : Syntax .expr)
      (span : Span) : Syntax .expr
  /-- Arrow functions included. -/
  | functionExpr (value : Syntax .functionForm) : Syntax .expr
  | classExpr (value : Syntax .classForm) : Syntax .expr
  | object (properties : Syntax (.list .property)) (span : Span) : Syntax .expr
  | array (elements : Syntax (.list .argument)) (span : Span) : Syntax .expr
  | jsxExpr (value : Syntax .jsx) : Syntax .expr
  | wrapped (wrapper : Wrapper) (inner : Syntax .expr) (span : Span) : Syntax .expr
  | await (operand : Syntax .expr) (span : Span) : Syntax .expr
  | yield (operand : Syntax (.option .expr)) (span : Span) : Syntax .expr
  | thisExpr (span : Span) : Syntax .expr
  /-- `import(source, options)` -/
  | importCall (source : Syntax .expr) (options : Syntax (.option .expr)) (span : Span) :
      Syntax .expr
  /-- `super`, `import.meta` and `new.target`. -/
  | word (span : Span) : Syntax .expr
  | item (value : Syntax .expr) : Syntax .argument
  | spread (value : Syntax .expr) (span : Span) : Syntax .argument
  /-- `key` is there for a computed key only. -/
  | keyed (key : Syntax (.option .expr)) (value : Syntax .expr) (span : Span) : Syntax .property
  | spreadProperty (value : Syntax .expr) (span : Span) : Syntax .property
  /-- `rest` is the pattern after the dots and `restSpan` the span from the dots on. -/
  | func (kind : FunctionKind) (name : Option Name) (params : Syntax (.list .param))
      (rest : Syntax (.option .pattern)) (restSpan : Span) (body : Syntax (.list .statement))
      (span : Span) : Syntax .functionForm
  | parameter (decorators : Syntax (.list .expr)) (pattern : Syntax .pattern)
      (initial : Syntax (.option .expr)) (span : Span) : Syntax .param
  | classBody (kind : ClassKind) (decorators : Syntax (.list .expr)) (name : Option Name)
      (parent : Syntax (.option .expr)) (members : Syntax (.list .member)) (span : Span) :
      Syntax .classForm
  | method (decorators : Syntax (.list .expr)) (key : Syntax (.option .expr))
      (value : Syntax .functionForm) : Syntax .member
  | field (decorators : Syntax (.list .expr)) (key : Syntax (.option .expr))
      (value : Syntax (.option .expr)) : Syntax .member
  | staticBlock (body : Syntax (.list .statement)) (span : Span) : Syntax .member
  /-- Automatic accessors, abstract properties and index signatures. -/
  | signature (decorators : Syntax (.list .expr)) (key : Syntax (.option .expr))
      (value : Syntax (.option .expr)) : Syntax .member
  | boundName (name : Name) : Syntax .pattern
  | objectPattern (properties : Syntax (.list .patternProperty)) (rest : Syntax (.option .pattern))
      (span : Span) : Syntax .pattern
  | arrayPattern (elements : Syntax (.list .pattern)) (rest : Syntax (.option .pattern))
      (span : Span) : Syntax .pattern
  | defaultPattern (target : Syntax .pattern) (value : Syntax .expr) (span : Span) : Syntax .pattern
  | patternMember (key : Syntax (.option .expr)) (value : Syntax .pattern) : Syntax .patternProperty
  | targetName (name : Name) : Syntax .target
  | targetMember (object : Syntax .expr) (name : String) (span : Span) : Syntax .target
  | targetIndex (object key : Syntax .expr) (span : Span) : Syntax .target
  | targetPrivate (object : Syntax .expr) (name : String) (span : Span) : Syntax .target
  | targetWrapped (wrapper : Wrapper) (inner : Syntax .target) (span : Span) : Syntax .target
  | targetObject (properties : Syntax (.list .targetProperty)) (rest : Syntax (.option .target))
      (span : Span) : Syntax .target
  | targetArray (elements : Syntax (.list .target)) (rest : Syntax (.option .target))
      (span : Span) : Syntax .target
  | targetDefault (target : Syntax .target) (value : Syntax .expr) (span : Span) : Syntax .target
  | shorthand (name : Name) (value : Syntax (.option .expr)) (span : Span) : Syntax .targetProperty
  /-- `key` is there unless it is a plain name. -/
  | targetKeyed (key : Syntax (.option .expr)) (target : Syntax .target) (span : Span) :
      Syntax .targetProperty
  | element (name : JsxName) (attributes : Syntax (.list .jsxAttribute)) (openingSpan : Span)
      (children : Syntax (.list .jsxPart)) (span : Span) : Syntax .jsx
  | fragment (children : Syntax (.list .jsxPart)) (span : Span) : Syntax .jsx
  | namedAttribute (name : String) (value : Syntax (.option .jsxPart)) (span : Span) :
      Syntax .jsxAttribute
  | spreadAttribute (value : Syntax .expr) (span : Span) : Syntax .jsxAttribute
  | quoted (text : String) (span : Span) : Syntax .jsxPart
  | container (value : Syntax (.option .expr)) (span : Span) : Syntax .jsxPart
  | nested (value : Syntax .jsx) : Syntax .jsxPart
  | spreadChild (value : Syntax .expr) (span : Span) : Syntax .jsxPart
  | declare (pattern : Syntax .pattern) (init : Syntax (.option .expr)) (span : Span) :
      Syntax .declarator
  | variableList (kind : DeclarationKind) (declarators : Syntax (.list .declarator))
      (span : Span) : Syntax .declaration
  | headVariables (value : Syntax .declaration) : Syntax .loopHead
  | headExpr (value : Syntax .expr) : Syntax .loopHead
  | headTarget (value : Syntax .target) : Syntax .loopHead
  | case (test : Syntax (.option .expr)) (body : Syntax (.list .statement)) (span : Span) :
      Syntax .switchCase
  | handler (param : Syntax (.option .pattern)) (body : Syntax .statement) (span : Span) :
      Syntax .catchClause
  | expression (value : Syntax .expr) (span : Span) : Syntax .statement
  | variableDecl (value : Syntax .declaration) : Syntax .statement
  | functionDecl (value : Syntax .functionForm) : Syntax .statement
  | classDecl (value : Syntax .classForm) : Syntax .statement
  | returns (value : Syntax (.option .expr)) (span : Span) : Syntax .statement
  | throws (value : Syntax .expr) (span : Span) : Syntax .statement
  | block (body : Syntax (.list .statement)) (span : Span) : Syntax .statement
  | ifElse (test : Syntax .expr) (consequent : Syntax .statement)
      (alternate : Syntax (.option .statement)) (span : Span) : Syntax .statement
  | forLoop (head : Syntax (.option .loopHead)) (test update : Syntax (.option .expr))
      (body : Syntax .statement) (span : Span) : Syntax .statement
  | forEach (kind : IterationKind) (head : Syntax .loopHead) (collection : Syntax .expr)
      (body : Syntax .statement) (span : Span) : Syntax .statement
  | whileLoop (test : Syntax .expr) (body : Syntax .statement) (span : Span) : Syntax .statement
  | doWhile (body : Syntax .statement) (test : Syntax .expr) (span : Span) : Syntax .statement
  | labeled (label : String) (body : Syntax .statement) (span : Span) : Syntax .statement
  | switch (discriminant : Syntax .expr) (cases : Syntax (.list .switchCase)) (span : Span) :
      Syntax .statement
  /-- The blocks are block statements. -/
  | tryCatch (body : Syntax .statement) (handler : Syntax (.option .catchClause))
      (finalizer : Syntax (.option .statement)) (span : Span) : Syntax .statement
  | withObject (object : Syntax .expr) (body : Syntax .statement) (span : Span) : Syntax .statement
  | exportNamed (declaration : Syntax (.option .statement)) (span : Span) : Syntax .statement
  | exportDefault (declaration : Syntax .statement) (span : Span) : Syntax .statement
  | exportDefaultValue (value : Syntax .expr) (span : Span) : Syntax .statement
  /-- `export = value` -/
  | exportValue (value : Syntax .expr) (span : Span) : Syntax .statement
  /-- A namespace or module declaration; a dotted name is a path of several names. -/
  | namespaceDecl (path : List String) (body : Syntax (.list .statement)) (span : Span) :
      Syntax .statement
  /-- `declare global` -/
  | globalDecl (body : Syntax (.list .statement)) (span : Span) : Syntax .statement
  | enumDecl (name : Name) (values : Syntax (.list .expr)) (span : Span) : Syntax .statement
  /-- Statements in which no expression can stand: imports, types, `break`, `;` and others. -/
  | plain (span : Span) : Syntax .statement

/-- A whole module. Directives at its start are no statements. -/
structure Program where
  body : Syntax (.list .statement)
  span : Span

end PropTrace

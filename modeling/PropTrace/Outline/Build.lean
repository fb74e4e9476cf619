import PropTrace.Outline.Basic
import PropTrace.SourceUnit

/-!
Building a unit from an outline: nodes are numbered from the leaves to the root, scopes in the order
they open. A binding is recorded at once; a use waits until the whole outline is built, so that it
sees every declaration of the scopes around it, wherever in them it stands.
-/
namespace PropTrace

/-- A unit in the making. -/
structure Draft where
  tree : SyntaxTree
  scopes : ScopeTree
  /-- The uses that wait to be resolved, in the order they were built. -/
  uses : List NodeId

namespace Draft

def empty : Draft := ⟨.empty, .initial, []⟩

/-- Appends a node. -/
def push (draft : Draft) (kind : NodeKind) (span : Span) (scope : ScopeId) : NodeId × Draft :=
  let (id, tree) := draft.tree.push kind span scope
  (id, { draft with tree })

/-- Appends an identifier that waits to be resolved. -/
def use (draft : Draft) (name : Name) (scope : ScopeId) : NodeId × Draft :=
  let (id, draft) := draft.push (.identifier name.text) name.span scope
  (id, { draft with uses := draft.uses ++ [id] })

/-- Appends an identifier that declares its name in the scope `target`. -/
def bind (draft : Draft) (name : Name) (target scope : ScopeId) : NodeId × Draft :=
  let (variableId, scopes) := draft.scopes.declare target name.text
  let (id, draft) := { draft with scopes }.push (.identifier name.text) name.span scope
  (id, { draft with scopes := draft.scopes.addReference variableId id })

/-- The scope a binding in `scope` belongs to. -/
def placeOf (draft : Draft) (place : BindingPlace) (scope : ScopeId) : ScopeId :=
  match place with
  | .here => scope
  | .hoisted => draft.scopes.hoistTarget scope

/-- Records a use at the variable its name stands for. -/
def resolve (draft : Draft) (id : NodeId) : Draft :=
  match draft.tree.node? id with
  | some { kind := .identifier name, scope, .. } =>
    match draft.scopes.lookup scope name with
    | some variableId => { draft with scopes := draft.scopes.addReference variableId id }
    | none => { draft with scopes := draft.scopes.addUnresolved id }
  | _ => draft

end Draft

namespace Outline

mutual

/-- Builds the node of an outline in a scope. -/
def build : Outline → ScopeId → Draft → NodeId × Draft
  | .use name, scope, draft => draft.use name scope
  | .bind name place, scope, draft => draft.bind name (draft.placeOf place scope) scope
  | .node shape span parts, scope, draft =>
    let (ids, draft) := buildAll parts scope draft
    draft.push (shape.kind ids) span scope
  | .region shape span before kind inside, scope, draft =>
    let (outer, draft) := buildAll before scope draft
    let (opened, scopes) := draft.scopes.createScope kind scope
    let (inner, draft) := buildAll inside opened { draft with scopes }
    draft.push (shape.kind (outer ++ inner)) span scope

/-- Builds outlines one after another. -/
def buildAll : List Outline → ScopeId → Draft → List NodeId × Draft
  | [], _, draft => ([], draft)
  | outline :: rest, scope, draft =>
    let (id, draft) := build outline scope draft
    let (ids, draft) := buildAll rest scope draft
    (id :: ids, draft)

end

/-- The unit of an outline: everything built in the module scope, the uses resolved, and the
occurrences of every variable in source order. -/
def toUnit (outline : Outline) (file source : String) : SourceUnit :=
  let (root, draft) := outline.build ScopeTree.moduleScope .empty
  let draft := draft.uses.foldl Draft.resolve draft
  SourceUnit.sortReferences {
    file, source, tree := { draft.tree with root := some root }, scopes := draft.scopes }

end Outline

end PropTrace

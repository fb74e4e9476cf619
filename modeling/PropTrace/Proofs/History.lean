import PropTrace.Proofs.Enclosing

/-!
Scope trees and how they came about. Operations are carried out one after another, starting from the
module scope alone; every declaration among them answers a variable. What a scope tree answers to a
lookup is told by these answers: a scope has a name for the variable that the first declaration of
the name there answered, whatever was done in between or afterwards.
-/
namespace PropTrace

namespace ScopeTree

/-- One operation on a scope tree. -/
inductive Operation where
  | createScope (kind : ScopeKind) (parent : ScopeId)
  | declare (scope : ScopeId) (name : String)
  | addReference (id : VariableId) (identifier : NodeId)
  | addUnresolved (identifier : NodeId)
  /-- The key says where an identifier stands in the source. -/
  | sortReferences (key : NodeId → Nat)

namespace Operation

def apply (tree : ScopeTree) : Operation → ScopeTree
  | createScope kind parent => (tree.createScope kind parent).2
  | declare scope name => (tree.declare scope name).2
  | addReference id identifier => tree.addReference id identifier
  | addUnresolved identifier => tree.addUnresolved identifier
  | sortReferences key => tree.sortReferences key

/-- Whether the scope or the variable that an operation is about exists. -/
def Fits (tree : ScopeTree) : Operation → Prop
  | createScope _ parent => parent < tree.scopes.size
  | declare scope _ => scope < tree.scopes.size
  | addReference id _ => id < tree.vars.size
  | addUnresolved _ | sortReferences _ => True

/-- The scope, the name and the answered variable of a declaration. -/
def answer? (tree : ScopeTree) : Operation → Option ((ScopeId × String) × VariableId)
  | declare scope name => some ((scope, name), (tree.declare scope name).1)
  | _ => none

end Operation

/-- The scope tree after operations one after another. -/
def run (tree : ScopeTree) (operations : List Operation) : ScopeTree :=
  operations.foldl Operation.apply tree

/-- Every operation is about scopes and variables that exist when its turn comes. -/
def Allows : ScopeTree → List Operation → Prop
  | _, [] => True
  | tree, operation :: rest => operation.Fits tree ∧ (operation.apply tree).Allows rest

/-- What the declarations among operations answer, in order. -/
def answers : ScopeTree → List Operation → List ((ScopeId × String) × VariableId)
  | _, [] => []
  | tree, operation :: rest =>
    (operation.answer? tree).toList ++ (operation.apply tree).answers rest

variable {tree : ScopeTree} {operations : List Operation} {operation : Operation}

theorem Grown.apply (h : tree.Grown) (hFits : operation.Fits tree) :
    (operation.apply tree).Grown := by
  cases operation with
  | createScope kind parent => exact h.createScope kind parent hFits
  | declare scope name => exact h.declare scope name hFits
  | addReference id identifier => exact h.addReference id identifier hFits
  | addUnresolved identifier => exact h.addUnresolved identifier
  | sortReferences key => exact h.sortReferences key

theorem Grown.run (h : tree.Grown) (hAllows : tree.Allows operations) :
    (tree.run operations).Grown := by
  induction operations generalizing tree with
  | nil => exact h
  | cons operation rest ih => exact ih (h.apply hAllows.1) hAllows.2

theorem extends_apply (tree : ScopeTree) (operation : Operation) :
    Extends tree (operation.apply tree) := by
  cases operation with
  | createScope kind parent => exact extends_createScope tree kind parent
  | declare scope name => exact extends_declare tree scope name
  | addReference id identifier => exact extends_addReference tree id identifier
  | addUnresolved identifier => exact extends_addUnresolved tree identifier
  | sortReferences key => exact extends_sortReferences tree key

/-- Operations take nothing off the record. -/
theorem extends_run (tree : ScopeTree) (operations : List Operation) :
    Extends tree (tree.run operations) := by
  induction operations generalizing tree with
  | nil => exact .refl tree
  | cons operation rest ih => exact (extends_apply tree operation).trans (ih _)

/-- One operation declares what it answers, unless the name is declared there already. -/
theorem declared?_apply (hFits : operation.Fits tree) (scope : ScopeId) (name : String) :
    (operation.apply tree).declared? scope name =
      (tree.declared? scope name).or
        ((operation.answer? tree).toList.lookup (scope, name)) := by
  cases operation with
  | createScope kind parent =>
      exact (declared?_createScope tree kind parent scope name).trans Option.or_none.symm
  | declare inScope added =>
      refine (declared?_declare hFits scope name).trans (congrArg _ ?_)
      by_cases hSame : scope = inScope ∧ name = added
      · obtain ⟨rfl, rfl⟩ := hSame
        simp [Operation.answer?]
      · have hKey : ((scope, name) == (inScope, added)) = false := by simpa using hSame
        simp [Operation.answer?, hSame, List.lookup_cons, hKey]
  | addReference id identifier => exact Option.or_none.symm
  | addUnresolved identifier => exact Option.or_none.symm
  | sortReferences key => exact Option.or_none.symm

/-- After operations a scope has a name for the variable it had before, or else for the first one
that was answered. -/
theorem declared?_run (hAllows : tree.Allows operations) (scope : ScopeId) (name : String) :
    (tree.run operations).declared? scope name =
      (tree.declared? scope name).or ((tree.answers operations).lookup (scope, name)) := by
  induction operations generalizing tree with
  | nil => exact Option.or_none.symm
  | cons operation rest ih =>
      obtain ⟨hFits, hRest⟩ := hAllows
      calc ((operation.apply tree).run rest).declared? scope name
          _ = ((operation.apply tree).declared? scope name).or
              (((operation.apply tree).answers rest).lookup (scope, name)) := ih hRest
          _ = _ := by
            rw [declared?_apply hFits, Option.or_assoc, ← List.lookup_append]
            rfl

theorem declared?_initial (scope : ScopeId) (name : String) :
    initial.declared? scope name = none := by
  cases scope <;> rfl

/-- From the start, a scope has a name for the variable that the first declaration answered. -/
theorem declared?_run_initial (hAllows : initial.Allows operations) (scope : ScopeId)
    (name : String) :
    (initial.run operations).declared? scope name =
      (initial.answers operations).lookup (scope, name) := by
  rw [declared?_run hAllows, declared?_initial, Option.none_or]

/-- A scope declares a name if the name was ever declared there. -/
theorem isSome_declared?_run_iff (hAllows : initial.Allows operations) {scope : ScopeId}
    {name : String} :
    ((initial.run operations).declared? scope name).isSome ↔
      ∃ id, ((scope, name), id) ∈ initial.answers operations := by
  rw [declared?_run_initial hAllows, List.lookup_isSome_iff]
  constructor
  · rintro ⟨⟨key, id⟩, hMem, hKey⟩
    exact ⟨id, beq_iff_eq.mp hKey ▸ hMem⟩
  · rintro ⟨id, hMem⟩
    exact ⟨_, hMem, beq_self_eq_true _⟩

/-- Of the scopes around `scope`, itself included, `declaring` is the nearest one on which the name
was ever declared, as the answers tell. -/
structure NearestTold (tree : ScopeTree) (told : List ((ScopeId × String) × VariableId))
    (name : String) (scope declaring : ScopeId) : Prop where
  around : tree.Encloses declaring scope
  declares : ∃ id, ((declaring, name), id) ∈ told
  first : ∀ other, tree.Encloses other scope → (∃ id, ((other, name), id) ∈ told) →
    tree.Encloses other declaring

theorem nearest_run_iff (hAllows : initial.Allows operations) {name : String}
    {scope declaring : ScopeId} :
    (initial.run operations).Nearest name scope declaring ↔
      (initial.run operations).NearestTold (initial.answers operations) name scope declaring := by
  constructor
  · rintro ⟨hAround, hDeclares, hFirst⟩
    exact ⟨hAround, (isSome_declared?_run_iff hAllows).mp hDeclares, fun other hOther hTold =>
      hFirst other hOther ((isSome_declared?_run_iff hAllows).mpr hTold)⟩
  · rintro ⟨hAround, hDeclares, hFirst⟩
    exact ⟨hAround, (isSome_declared?_run_iff hAllows).mpr hDeclares, fun other hOther hSome =>
      hFirst other hOther ((isSome_declared?_run_iff hAllows).mp hSome)⟩

/-- A scope tree answers lookups by the history of its declarations. A lookup ends; it answers what
the first declaration of the name in the nearest scope with one answered, and nothing if and only if
the name was declared nowhere around. The variables are those of the first declarations, with their
scopes and names: no two have both in common, and each is found from its own scope. A declaration
changes what a name stands for only in scopes where nothing nearer hides it. -/
theorem run_answers_by_history (operations : List Operation)
    (hAllows : initial.Allows operations) :
    let tree := initial.run operations
    let told := initial.answers operations
    (∀ scope < tree.scopes.size, ∀ name,
      tree.LooksUp name scope (tree.lookup scope name) ∧
      (∀ id, tree.lookup scope name = some id ↔
        ∃ declaring, tree.NearestTold told name scope declaring ∧
          told.lookup (declaring, name) = some id) ∧
      (tree.lookup scope name = none ↔
        ∀ outer, tree.Encloses outer scope → ∀ id, ((outer, name), id) ∉ told)) ∧
    (∀ scope name id, told.lookup (scope, name) = some id ↔
      ∃ v, tree.vars[id]? = some v ∧ v.scope = scope ∧ v.name = name) ∧
    (∀ (id other : VariableId) (v w : Variable), tree.vars[id]? = some v →
      tree.vars[other]? = some w → v.scope = w.scope → v.name = w.name → id = other) ∧
    (∀ (id : VariableId) (v : Variable), tree.vars[id]? = some v →
      tree.lookup v.scope v.name = some id) ∧
    ∀ declaring < tree.scopes.size, ∀ name scope other,
      (other = name ∧ tree.Exposed name declaring scope →
        (tree.declare declaring name).2.lookup scope other =
          some (tree.declare declaring name).1) ∧
      (¬(other = name ∧ tree.Exposed name declaring scope) →
        (tree.declare declaring name).2.lookup scope other = tree.lookup scope other) := by
  intro tree told
  have hGrown : tree.Grown := Grown.initial.run hAllows
  have hTold : ∀ scope name, tree.declared? scope name = told.lookup (scope, name) :=
    declared?_run_initial hAllows
  have hOwn : ∀ (id : VariableId) (v : Variable), tree.vars[id]? = some v →
      tree.declared? v.scope v.name = some id :=
    fun id v hVar => hGrown.declared?_eq_some_iff.mpr ⟨v, hVar, rfl, rfl⟩
  refine ⟨?_, ?_, ?_, ?_, ?_⟩
  · intro scope _ name
    refine ⟨hGrown.looksUp scope name, fun id => ?_, ?_⟩
    · simp only [hGrown.lookup_eq_some_iff, ← hTold]
      exact exists_congr fun declaring => and_congr_left' (nearest_run_iff hAllows)
    · rw [hGrown.lookup_eq_none_iff]
      refine forall₂_congr fun outer _ => ?_
      rw [← Option.not_isSome_iff_eq_none, isSome_declared?_run_iff hAllows, not_exists]
  · intro scope name id
    rw [← hTold]
    exact hGrown.declared?_eq_some_iff
  · intro id other v w hVar hOther hScope hName
    have hSame := hOwn other w hOther
    rw [← hScope, ← hName, hOwn id v hVar] at hSame
    exact Option.some.inj hSame
  · intro id v hVar
    rw [hGrown.lookup_eq, hOwn id v hVar]
    rfl
  · intro declaring hDeclaring name scope other
    refine ⟨?_, hGrown.lookup_declare_of_not_exposed hDeclaring⟩
    rintro ⟨rfl, hExposed⟩
    exact hGrown.lookup_declare_of_exposed hDeclaring hExposed

/-- A function with a block in it, and `x` declared twice around them and once in the block, all
after the scopes were there. -/
def twiceDeclared : List Operation :=
  [.createScope .function 0, .createScope .block 1, .declare 0 "x", .declare 2 "x",
    .addReference 1 4, .declare 0 "x", .addUnresolved 5, .sortReferences id, .declare 1 "y"]

/-- From the function `x` is the variable of the first declaration in the module; one more
declaration in the function would be seen there and would not be seen in the block. -/
theorem twiceDeclared_answers :
    initial.Allows twiceDeclared ∧
      (∃ declaring, (initial.run twiceDeclared).NearestTold (initial.answers twiceDeclared) "x" 1
        declaring ∧ (initial.answers twiceDeclared).lookup (declaring, "x") = some 0) ∧
      ((initial.run twiceDeclared).declare 1 "x").2.lookup 2 "x" =
        (initial.run twiceDeclared).lookup 2 "x" := by
  have hAllows : initial.Allows twiceDeclared := by
    simp only [twiceDeclared, Allows, Operation.Fits]
    decide
  obtain ⟨hLookup, -, -, -, hDeclare⟩ := run_answers_by_history twiceDeclared hAllows
  refine ⟨hAllows, ((hLookup 1 (by decide) "x").2.1 0).mp (by decide), ?_⟩
  refine (hDeclare 1 (by decide) "x" 2 "x").2 ?_
  rintro ⟨-, hExposed⟩
  have hNone := hExposed.undeclared 2 .refl hExposed.around
  exact absurd hNone (by decide)

end ScopeTree

end PropTrace

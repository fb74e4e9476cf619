import Mathlib.Data.List.Perm.Subperm
import Mathlib.Logic.Relation
import PropTrace.Origin
import PropTrace.Proofs.Arena
import PropTrace.Proofs.Scopes

/-!
The search for origins finds what the flow of values alone can reach. The search does not follow a
variable again while it is following it; a path that does so can be cut short at the last place
where the variable is read, because every reading of a variable leads to the same written values.
-/
namespace PropTrace

/-- Whether the search for origins ends at a node of this kind and reports it. -/
def NodeKind.isOrigin : NodeKind → Bool
  | literal _ | identifier _ | logical .. | conditional .. => false
  | _ => true

def SyntaxTree.IsOrigin (tree : SyntaxTree) (id : NodeId) : Prop :=
  ∃ kind, tree.kind? id = some kind ∧ kind.isOrigin

namespace SourceUnit

/-- One step from an expression towards where its value may come from. Nothing guards it: a variable
may be read any number of times on one path. -/
inductive LeadsTo (unit : SourceUnit) : NodeId → NodeId → Prop where
  | left {id left right : NodeId} {operator : LogicalOperator}
      (kind : unit.tree.kind? id = some (.logical operator left right)) : LeadsTo unit id left
  | right {id left right : NodeId} {operator : LogicalOperator}
      (kind : unit.tree.kind? id = some (.logical operator left right)) : LeadsTo unit id right
  | consequent {id test consequent alternate : NodeId}
      (kind : unit.tree.kind? id = some (.conditional test consequent alternate)) :
      LeadsTo unit id consequent
  | alternate {id test consequent alternate : NodeId}
      (kind : unit.tree.kind? id = some (.conditional test consequent alternate)) :
      LeadsTo unit id alternate
  | written {id reference value : NodeId} {name : String} {variableId : VariableId}
      (kind : unit.tree.kind? id = some (.identifier name))
      (found : unit.lookup id name = some variableId)
      (occurs : reference ∈ unit.scopes.references variableId)
      (assigned : unit.tree.assignedValue? reference = some value) : LeadsTo unit id value

/-- Where the value of an expression may come from after any number of steps. -/
def Reaches (unit : SourceUnit) : NodeId → NodeId → Prop := Relation.ReflTransGen unit.LeadsTo

/-- Units put together from the operations on arenas and scope trees, in any order. -/
structure Grown (unit : SourceUnit) : Prop where
  tree : unit.tree.Grown
  scopes : unit.scopes.Grown

/-- The identifier at `id` reads this variable. -/
def Reads (unit : SourceUnit) (id : NodeId) (variableId : VariableId) : Prop :=
  ∃ name, unit.tree.kind? id = some (.identifier name) ∧ unit.lookup id name = some variableId

/-- A step that reads none of the listed variables. -/
def LeadsPast (unit : SourceUnit) (following : List VariableId) (id next : NodeId) : Prop :=
  unit.LeadsTo id next ∧ ∀ variableId ∈ following, ¬ unit.Reads id variableId

variable {unit : SourceUnit} {following : List VariableId} {variableId : VariableId}
  {id next candidate : NodeId}

theorem mem_writtenValues {value : NodeId} :
    value ∈ unit.writtenValues variableId ↔
      ∃ reference ∈ unit.scopes.references variableId,
        unit.tree.assignedValue? reference = some value := by
  simp [writtenValues]

/-- Reading a variable leads to the values written to it, whichever identifier reads it. -/
theorem LeadsTo.mem_writtenValues (h : unit.LeadsTo id next) (hReads : unit.Reads id variableId) :
    next ∈ unit.writtenValues variableId := by
  obtain ⟨name, hKind, hFound⟩ := hReads
  cases h with
  | left kind | right kind => simp [hKind] at kind
  | consequent kind | alternate kind => simp [hKind] at kind
  | @written reference _ other _ kind found occurs assigned =>
      obtain rfl : name = other := by simpa [hKind] using kind
      obtain rfl := Option.some.inj (hFound.symm.trans found)
      exact SourceUnit.mem_writtenValues.mpr ⟨reference, occurs, assigned⟩

/-- A path either reads a variable nowhere, or its part after the last reading starts at a value
written to that variable. -/
theorem cut_at_last_reading (variableId : VariableId)
    (h : Relation.ReflTransGen (unit.LeadsPast following) id candidate) :
    Relation.ReflTransGen (unit.LeadsPast (variableId :: following)) id candidate ∨
      ∃ value ∈ unit.writtenValues variableId,
        Relation.ReflTransGen (unit.LeadsPast (variableId :: following)) value candidate := by
  induction h using Relation.ReflTransGen.head_induction_on with
  | refl => exact Or.inl Relation.ReflTransGen.refl
  | @head start second hStep _ ih =>
      obtain ⟨hLeads, hPast⟩ := hStep
      rcases ih with hAvoids | hLater
      · by_cases hReads : unit.Reads start variableId
        · exact Or.inr ⟨second, hLeads.mem_writtenValues hReads, hAvoids⟩
        · refine Or.inl (hAvoids.head ⟨hLeads, ?_⟩)
          intro other hMem
          rcases List.mem_cons.mp hMem with rfl | hMem
          · exact hReads
          · exact hPast other hMem
      · exact Or.inr hLater

/-- Nested nodes that the search may still enter: a step down the tree leaves fewer, and so does
following one more variable, wherever its values stand. -/
def room (unit : SourceUnit) (following : List VariableId) (id : NodeId) : Nat :=
  (unit.scopes.vars.size - following.length) * unit.tree.size + id + 1

theorem room_child {child : NodeId} (hChild : child < id) :
    unit.room following child < unit.room following id := by
  simp only [room]
  grind

theorem room_follow (hMore : following.length < unit.scopes.vars.size) {value : NodeId}
    (hValue : value < unit.tree.size) :
    unit.room (variableId :: following) value < unit.room following id := by
  obtain ⟨spare, hSpare⟩ := Nat.exists_eq_add_of_lt hMore
  have hNow : unit.scopes.vars.size - following.length = spare + 1 := by omega
  have hThen : unit.scopes.vars.size - (variableId :: following).length = spare := by
    rw [List.length_cons]
    omega
  simp only [room, hNow, hThen, Nat.add_mul, Nat.one_mul]
  grind

theorem room_le_originDepth (hId : id < unit.tree.size) : unit.room [] id ≤ unit.originDepth := by
  simp only [room, originDepth, List.length_nil, Nat.sub_zero, Nat.add_mul, Nat.one_mul]
  grind

/-- Distinct existing variables are at most as many as there are. -/
theorem length_lt_of_not_mem {bound : Nat} (hNodup : following.Nodup)
    (hBound : ∀ v ∈ following, v < bound) (hNew : variableId ∉ following)
    (hVariable : variableId < bound) : following.length < bound := by
  have hAll : (variableId :: following).Nodup := List.nodup_cons.mpr ⟨hNew, hNodup⟩
  have hSubset : variableId :: following ⊆ List.range bound := by
    intro v hMem
    rcases List.mem_cons.mp hMem with rfl | hMem
    · exact List.mem_range.mpr hVariable
    · exact List.mem_range.mpr (hBound v hMem)
  have hLength := (List.subperm_of_subset hAll hSubset).length_le
  rwa [List.length_range] at hLength

theorem assignedValue?_lt (hGrown : unit.tree.Grown) {reference value : NodeId}
    (h : unit.tree.assignedValue? reference = some value) : value < unit.tree.size := by
  obtain ⟨parent, hParent, hKind⟩ := Option.bind_eq_some_iff.mp h
  have hChild : value ∈ unit.tree.children parent := by
    simp only [SyntaxTree.children]
    split at hKind <;> simp_all [NodeKind.children]
  exact Nat.lt_trans (hGrown.mem_children_lt hChild) (SyntaxTree.lt_size_of_mem_children hChild)

/-- The search reports only origins that the flow of values reaches. -/
theorem reaches_of_mem_originsWithin {depth : Nat}
    (h : candidate ∈ unit.originsWithin depth following id) :
    unit.tree.IsOrigin candidate ∧ unit.Reaches id candidate := by
  induction depth generalizing following id with
  | zero => simp [originsWithin] at h
  | succ depth ih =>
      rw [originsWithin] at h
      split at h
      · simp at h
      · simp at h
      · next name hKind =>
          split at h
          · simp at h
          · next written hFound =>
              split at h
              · simp at h
              · obtain ⟨value, hValue, hMem⟩ := List.mem_flatMap.mp h
                obtain ⟨reference, hOccurs, hAssigned⟩ := mem_writtenValues.mp hValue
                obtain ⟨hOrigin, hPath⟩ := ih hMem
                exact ⟨hOrigin, hPath.head (.written hKind hFound hOccurs hAssigned)⟩
      · next hKind =>
          rcases List.mem_append.mp h with hMem | hMem
          · obtain ⟨hOrigin, hPath⟩ := ih hMem
            exact ⟨hOrigin, hPath.head (.left hKind)⟩
          · obtain ⟨hOrigin, hPath⟩ := ih hMem
            exact ⟨hOrigin, hPath.head (.right hKind)⟩
      · next hKind =>
          rcases List.mem_append.mp h with hMem | hMem
          · obtain ⟨hOrigin, hPath⟩ := ih hMem
            exact ⟨hOrigin, hPath.head (.consequent hKind)⟩
          · obtain ⟨hOrigin, hPath⟩ := ih hMem
            exact ⟨hOrigin, hPath.head (.alternate hKind)⟩
      · next kind hLiteral hIdentifier hLogical hConditional hKind =>
          obtain rfl := List.mem_singleton.mp h
          refine ⟨⟨kind, hKind, ?_⟩, Relation.ReflTransGen.refl⟩
          cases kind <;> simp_all [NodeKind.isOrigin]

/-- A search with enough depth left finds every origin that can be reached without reading a
variable that is being followed. -/
theorem mem_originsWithin_of_path {depth : Nat} (hGrown : unit.Grown)
    (hNodup : following.Nodup) (hBound : ∀ v ∈ following, v < unit.scopes.vars.size)
    (hDepth : unit.room following id ≤ depth) (hOrigin : unit.tree.IsOrigin candidate)
    (h : Relation.ReflTransGen (unit.LeadsPast following) id candidate) :
    candidate ∈ unit.originsWithin depth following id := by
  induction depth generalizing following id with
  | zero => simp [room] at hDepth
  | succ depth ih =>
      -- a step down the tree follows no further variable and needs less depth
      have hDown : ∀ child, child < id →
          Relation.ReflTransGen (unit.LeadsPast following) child candidate →
          candidate ∈ unit.originsWithin depth following child := by
        intro child hChild hPath
        have hRoom := @room_child unit following id child hChild
        exact ih hNodup hBound (by omega) hPath
      rcases Relation.ReflTransGen.cases_head h with rfl | ⟨second, ⟨hLeads, hPast⟩, hRest⟩
      · obtain ⟨kind, hKind, hIsOrigin⟩ := hOrigin
        cases kind <;> simp_all [originsWithin, NodeKind.isOrigin]
      · cases hLeads with
        | left hKind | right hKind =>
            have hMem : second ∈ unit.tree.children id := by
              simp [SyntaxTree.children, hKind, NodeKind.children]
            simp [originsWithin, hKind, hDown second (hGrown.tree.mem_children_lt hMem) hRest]
        | consequent hKind | alternate hKind =>
            have hMem : second ∈ unit.tree.children id := by
              simp [SyntaxTree.children, hKind, NodeKind.children]
            simp [originsWithin, hKind, hDown second (hGrown.tree.mem_children_lt hMem) hRest]
        | @written reference _ name variableId hKind hFound hOccurs hAssigned =>
            have hNew : variableId ∉ following := fun hMem =>
              hPast variableId hMem ⟨name, hKind, hFound⟩
            have hVariable : variableId < unit.scopes.vars.size := by
              obtain ⟨node, -, hLookup⟩ := Option.bind_eq_some_iff.mp hFound
              exact hGrown.scopes.lookup_lt hLookup
            -- the value to go on with is the one after the last reading of the variable
            obtain ⟨value, hValue, hPath⟩ : ∃ value ∈ unit.writtenValues variableId,
                Relation.ReflTransGen (unit.LeadsPast (variableId :: following)) value
                  candidate := by
              rcases cut_at_last_reading variableId hRest with hAvoids | hLater
              · exact ⟨second, mem_writtenValues.mpr ⟨reference, hOccurs, hAssigned⟩, hAvoids⟩
              · exact hLater
            obtain ⟨place, -, hPlace⟩ := mem_writtenValues.mp hValue
            have hMore := length_lt_of_not_mem hNodup hBound hNew hVariable
            have hRoom := @room_follow unit following variableId id hMore value
              (assignedValue?_lt hGrown.tree hPlace)
            have hFound' :
                candidate ∈ unit.originsWithin depth (variableId :: following) value := by
              refine ih (List.nodup_cons.mpr ⟨hNew, hNodup⟩) ?_ (by omega) hPath
              intro v hMem
              rcases List.mem_cons.mp hMem with rfl | hMem
              · exact hVariable
              · exact hBound v hMem
            rw [originsWithin]
            simp only [hKind, hFound, if_neg hNew]
            exact List.mem_flatMap.mpr ⟨value, hValue, hFound'⟩

/-- With nothing followed yet every step is allowed. -/
theorem leadsPast_nil : unit.LeadsPast [] = unit.LeadsTo := by
  funext start second
  simp [LeadsPast]

theorem mem_origins_iff (hGrown : unit.Grown) :
    candidate ∈ unit.origins id ↔ unit.tree.IsOrigin candidate ∧ unit.Reaches id candidate := by
  constructor
  · exact reaches_of_mem_originsWithin
  · rintro ⟨hOrigin, hPath⟩
    have hId : id < unit.tree.size := by
      rcases Relation.ReflTransGen.cases_head hPath with rfl | ⟨second, hLeads, -⟩
      · obtain ⟨kind, hKind, -⟩ := hOrigin
        exact SyntaxTree.kind?_lt hKind
      · cases hLeads <;> exact SyntaxTree.kind?_lt ‹_›
    refine mem_originsWithin_of_path hGrown List.nodup_nil (by simp) (room_le_originDepth hId)
      hOrigin ?_
    rw [leadsPast_nil]
    exact hPath

/-- The origins of an expression are the reportable nodes that the unguarded flow of values reaches.
Leaving out a variable that is being followed already never loses one, however the variables of the
unit read each other. -/
theorem mem_origins_iff_reaches (unit : SourceUnit) (hGrown : unit.Grown)
    (expression candidate : NodeId) :
    candidate ∈ unit.origins expression ↔
      unit.tree.IsOrigin candidate ∧ unit.Reaches expression candidate :=
  mem_origins_iff hGrown

/-- `x = y || {}; y = x; x`, where each variable reads the other. -/
def mutualUnit : SourceUnit where
  file := ""
  source := ""
  tree := [NodeKind.identifier "x", .identifier "y", .object [], .logical .or 1 2,
    .assignment .assign 0 3, .identifier "y", .identifier "x", .assignment .assign 5 6,
    .identifier "x"].foldl (fun tree kind => (tree.push kind ⟨0, 0⟩ ScopeTree.moduleScope).2) .empty
  scopes :=
    [(0, 0), (1, 1), (1, 5), (0, 6), (0, 8)].foldl (fun scopes (id, identifier) =>
        scopes.addReference id identifier)
      ((ScopeTree.initial.declare ScopeTree.moduleScope "x").2.declare ScopeTree.moduleScope "y").2

theorem mutualUnit_grown : mutualUnit.Grown where
  tree := by
    have hLeft := SyntaxTree.Grown.empty
      |>.push (.identifier "x") ⟨0, 0⟩ 0 (by simp [NodeKind.children])
      |>.push (.identifier "y") ⟨0, 0⟩ 0 (by simp [NodeKind.children])
      |>.push (.object []) ⟨0, 0⟩ 0 (by simp [NodeKind.children])
      |>.push (.logical .or 1 2) ⟨0, 0⟩ 0 (by simp [NodeKind.children])
      |>.push (.assignment .assign 0 3) ⟨0, 0⟩ 0 (by simp [NodeKind.children])
    exact hLeft
      |>.push (.identifier "y") ⟨0, 0⟩ 0 (by simp [NodeKind.children])
      |>.push (.identifier "x") ⟨0, 0⟩ 0 (by simp [NodeKind.children])
      |>.push (.assignment .assign 5 6) ⟨0, 0⟩ 0 (by simp [NodeKind.children])
      |>.push (.identifier "x") ⟨0, 0⟩ 0 (by simp [NodeKind.children])
  scopes := ScopeTree.Grown.initial
    |>.declare 0 "x" (by decide)
    |>.declare 0 "y" (by decide)
    |>.addReference 0 0 (by decide)
    |>.addReference 1 1 (by decide)
    |>.addReference 1 5 (by decide)
    |>.addReference 0 6 (by decide)
    |>.addReference 0 8 (by decide)

theorem mutualUnit_origins :
    mutualUnit.Grown ∧ 2 ∈ mutualUnit.origins 8 ∧
      (2 ∈ mutualUnit.origins 8 ↔ mutualUnit.tree.IsOrigin 2 ∧ mutualUnit.Reaches 8 2) :=
  ⟨mutualUnit_grown, by decide, mem_origins_iff_reaches mutualUnit mutualUnit_grown 8 2⟩

end SourceUnit

end PropTrace

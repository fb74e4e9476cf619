import PropTrace.Proofs.Phrases

/-!
Names that are used. A plain name is used as an expression, as the target of an assignment, or in
both ways as a member `{ name }` of an object pattern on the left of an assignment. A walk over the
unit of a program meets an identifier for every name that the lowered phrases use, in the order of
the source.
-/
namespace PropTrace

/-- The names used in a phrase where lowering comes to, in the order of the source. -/
def Phrase.uses (phrase : Phrase) : List Name :=
  phrase.lowered.filterMap fun inner => inner.content.usedName?

namespace Outline

def usedName? : Outline → Option Name
  | .use name => some name
  | _ => none

/-- The names that outlines side by side use, in order. -/
def uses (outlines : List Outline) : List Name := (preorderAll outlines).filterMap usedName?

theorem filterMap_marks (outlines : List Outline) :
    (marks outlines).filterMap usedName? = uses outlines := by
  rw [marks, List.filterMap_filter, uses]
  refine List.filterMap_congr fun outline _ => ?_
  cases outline with
  | use name => rfl
  | bind | node | region => simp [usedName?]

end Outline

namespace Phrase

theorem filterMap_mark (phrase : Phrase) :
    phrase.mark.filterMap Outline.usedName? = phrase.content.usedName?.toList := by
  have hSite : phrase.site.filterMap Outline.usedName? = [] := by
    rcases phrase.site_cases with hNone | ⟨shape, span, parts, -, hOne⟩
    · rw [hNone]
      rfl
    · rw [hOne]
      rfl
  rw [mark, List.filterMap_append, hSite, List.nil_append]
  cases phrase.content.usedName? <;> rfl

/-- The outlines of a phrase use the names that the lowered phrases in it use. -/
theorem uses_outline_eq (phrase : Phrase) : Outline.uses phrase.outline = phrase.uses := by
  rw [← Outline.filterMap_marks, marks_eq_flatMap, List.filterMap_flatMap, uses,
    List.filterMap_eq_flatMap_toList]
  exact List.flatMap_congr fun inner _ => inner.filterMap_mark

end Phrase

/-- What is chosen from the first of two corresponding lists corresponds to a part of the second. -/
theorem exists_sublist_of_forall₂_filterMap {α β γ : Type} {relates : α → β → Prop}
    (choose : α → Option γ) {as : List α} {bs : List β} (h : List.Forall₂ relates as bs) :
    ∃ kept, kept.Sublist bs ∧
      List.Forall₂ (fun c b => ∃ a, choose a = some c ∧ relates a b) (as.filterMap choose) kept := by
  induction h with
  | nil => exact ⟨[], List.Sublist.refl _, .nil⟩
  | @cons a b as bs hHead _ ih =>
      obtain ⟨kept, hKept, hRelated⟩ := ih
      cases hChosen : choose a with
      | none => exact ⟨kept, hKept.cons b, by rwa [List.filterMap_cons_none hChosen]⟩
      | some c =>
          refine ⟨b :: kept, hKept.cons_cons b, ?_⟩
          rw [List.filterMap_cons_some hChosen]
          exact .cons ⟨a, hChosen, hHead⟩ hRelated

/-- A walk over the unit of a program meets an identifier for each name that the program uses, in
order. All of them waited to be resolved. -/
theorem SourceUnit.Renders.exists_uses {unit : SourceUnit} {program : Program} {root : NodeId}
    {waiting : List NodeId} (h : unit.Renders program.outline root waiting) :
    ∃ ids, ids.Sublist unit.tree.walkAll ∧
      List.Forall₂ (fun name id => id ∈ waiting ∧
        ∃ scope, unit.tree.Holds id (.identifier name.text) name.span scope)
        program.phrase.uses ids := by
  obtain ⟨ids, hIds, hUses⟩ := exists_sublist_of_forall₂_filterMap Outline.usedName? h.forall₂_walkAll
  refine ⟨ids, hIds, ?_⟩
  have hProgram : program.outline.preorder.filterMap Outline.usedName? = program.phrase.uses := by
    rw [program.preorder_outline, List.filterMap_cons_none rfl, ← program.phrase.uses_outline_eq]
    rfl
  rw [hProgram] at hUses
  refine hUses.imp ?_
  rintro name id ⟨outline, hName, scope, hAt⟩
  cases outline with
  | use used =>
      obtain rfl := Option.some.inj hName
      exact ⟨hAt.use_inv.2, scope, hAt.use_inv.1⟩
  | bind | node | region => cases hName

end PropTrace

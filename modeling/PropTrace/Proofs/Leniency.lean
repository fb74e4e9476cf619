import Mathlib.Data.List.Flatten
import PropTrace.Proofs.Independence
import PropTrace.Proofs.PostOrder

/-!
Options only silence a rule. They reach its reports in two places: the directive that is asked for
closes the gate of a whole unit, and the allow list spares single attributes. Neither makes a report
or moves one, so the stricter of two choices of options reports what the milder one reports and
perhaps more, in the same order.
-/
namespace PropTrace

section stableSort

variable {α : Type} {le : α → α → Bool}

/-- A stable sort puts an element behind all that may not follow it and before all that may. -/
theorem mergeSort_cons_eq (trans : ∀ a b c, le a b → le b c → le a c)
    (total : ∀ a b, le a b || le b a) (a : α) (l : List α) :
    (a :: l).mergeSort le =
      (l.mergeSort le).filter (fun b => !le a b) ++ a :: (l.mergeSort le).filter (le a) := by
  obtain ⟨before, after, hCons, hRest, hBefore⟩ := List.mergeSort_cons trans total a l
  have hAfter : ∀ b ∈ after, le a b := by
    have hSorted := List.pairwise_mergeSort trans total (a :: l)
    rw [hCons] at hSorted
    exact fun b hMem => List.rel_of_pairwise_cons (List.pairwise_append.mp hSorted).2.1 hMem
  have hFollows : ∀ b ∈ before, le a b = false := by simpa using hBefore
  rw [hCons, hRest, List.filter_append, List.filter_append,
    List.filter_eq_self.mpr hBefore, List.filter_eq_self.mpr hAfter,
    List.filter_eq_nil_iff.mpr fun b hMem => by simp [hAfter b hMem],
    List.filter_eq_nil_iff.mpr fun b hMem => by simp [hFollows b hMem],
    List.append_nil, List.nil_append]

/-- What is left of a list is sorted into what is left of the sorted list. -/
theorem mergeSort_sublist_mergeSort (trans : ∀ a b c, le a b → le b c → le a c)
    (total : ∀ a b, le a b || le b a) {few many : List α} (h : few.Sublist many) :
    (few.mergeSort le).Sublist (many.mergeSort le) := by
  induction h with
  | slnil => exact List.Sublist.refl _
  | @cons few many a _ ih =>
      obtain ⟨before, after, hCons, hRest, -⟩ := List.mergeSort_cons trans total a many
      rw [hRest] at ih
      rw [hCons]
      exact ih.trans ((List.sublist_cons_self a after).append_left before)
  | cons_cons a _ ih =>
      rw [mergeSort_cons_eq trans total, mergeSort_cons_eq trans total]
      exact (ih.filter _).append ((ih.filter _).cons_cons a)

end stableSort

namespace AllowList

/-- Whether an allow list names a tag, if there is a list. -/
def names (list : Option AllowList) (tag : String) : Bool := list.any fun list => list.exempts tag

/-- A second allow list spares at least what a first one spares. Only native tags matter. -/
def Covers (fewer more : Option AllowList) : Prop :=
  ∀ tag, isNativeTag tag → names fewer tag → names more tag

/-- The ways to widen an allow list: from no list to one, to a list with more tags, their letter
case aside, and to all native elements. -/
inductive Widens : Option AllowList → Option AllowList → Prop where
  | start (list : Option AllowList) : Widens none list
  | more {fewer more : List String}
      (kept : ∀ name ∈ fewer, ∃ other ∈ more, Text.lowerCase other = Text.lowerCase name) :
      Widens (some (.tags fewer)) (some (.tags more))
  | all (list : Option AllowList) : Widens list (some .all)

theorem Widens.covers {fewer more : Option AllowList} (h : Widens fewer more) :
    Covers fewer more := by
  intro tag _ hNames
  cases h with
  | start => exact absurd hNames Bool.false_ne_true
  | all => rfl
  | more kept =>
      obtain ⟨name, hMem, hName⟩ := List.any_eq_true.mp hNames
      obtain ⟨other, hOther, hSame⟩ := kept name hMem
      refine List.any_eq_true.mpr ⟨other, hOther, ?_⟩
      rwa [hSame]

end AllowList

namespace SyntaxTree

/-- Tags that no allow list is about: those with a namespace or a dot, and plain ones whose first
character is not its own lower-case form. -/
inductive ComponentTag : NodeKind → Prop where
  | namespaced (space name : String) : ComponentTag (.jsxNamespacedName space name)
  | member (path : String) : ComponentTag (.jsxMember path)
  | capital {name : String} {first : Char} {rest : List Char} (chars : name.toList = first :: rest)
      (case : Text.lowerChar first ≠ [first]) : ComponentTag (.jsxIdentifier name)

/-- The own element of an attribute has such a tag. -/
def OnComponent (tree : SyntaxTree) (attr : NodeId) : Prop :=
  ∃ opening tag attributes kind, tree.parent? attr = some opening ∧
    tree.kind? opening = some (.jsxOpening tag attributes) ∧ tree.kind? tag = some kind ∧
    ComponentTag kind

/-- An element with such a tag is not native, whatever stands around it. -/
theorem OnComponent.isNativeElement {tree : SyntaxTree} {attr : NodeId}
    (h : tree.OnComponent attr) : tree.isNativeElement attr = false := by
  obtain ⟨opening, tag, attributes, kind, hParent, hOpening, hTag, hComponent⟩ := h
  cases hComponent with
  | namespaced | member => simp [SyntaxTree.isNativeElement, tagName?, hParent, hOpening, hTag]
  | capital chars case =>
      simp [SyntaxTree.isNativeElement, tagName?, hParent, hOpening, hTag, isNativeTag, chars, case]

end SyntaxTree

/-- In the unit of a program the attributes that an opening lists are those of its element. -/
theorem Program.onComponent_of_mem {program : Program} {file source : String}
    {opening tag attr : NodeId} {attributes : List NodeId} {kind : NodeKind}
    (hOpening : (program.toUnit file source).tree.kind? opening =
      some (.jsxOpening tag attributes))
    (hTag : (program.toUnit file source).tree.kind? tag = some kind)
    (hComponent : SyntaxTree.ComponentTag kind) (hMem : attr ∈ attributes) :
    (program.toUnit file source).tree.OnComponent attr := by
  obtain ⟨root, uses, hRenders⟩ := program.renders_toUnit file source
  refine ⟨opening, tag, attributes, kind, hRenders.parent?_eq ?_, hOpening, hTag, hComponent⟩
  simp [SyntaxTree.children, hOpening, NodeKind.children, hMem]

/-- A rule under given options. -/
def Rule.registeredAs (rule : Rule) (name : String) (options : RuleOptions) : RegisteredRule where
  name := name
  rule := rule
  options := options

namespace Rule

variable (rule : Rule) (name : String) (unit : SourceUnit)

/-- What a check of one attribute adds to the reports of a rule. -/
def contribution (options : RuleOptions) (settings : Settings) (attr : NodeId) :
    List Diagnostic :=
  (rule.check ((rule.registeredAs name options).freshContext settings unit) attr).2.diagnostics

/-- What a linter with nothing but one rule reports. -/
def lint (options : RuleOptions) (settings : Settings) : List Diagnostic :=
  Linter.lintUnit { rules := [rule.registeredAs name options], settings } unit

variable {rule name unit} {options : RuleOptions} {settings : Settings}

theorem contribution_eq (attr : NodeId) :
    rule.contribution name unit options settings attr =
      if (rule.registeredAs name options).admits settings unit &&
          !(rule.registeredAs name options).spares unit.tree attr
        then (rule.registeredAs name {}).dueAt unit attr else [] := by
  rw [contribution, check_snd]
  exact (rule.registeredAs name options).reportsAt_freshContext settings unit attr

/-- The reports of a rule are what the attributes contribute, in the order of the walk until they
are sorted. -/
theorem lint_eq : rule.lint name unit options settings =
    (unit.tree.walkedAttributes.flatMap
      (rule.contribution name unit options settings)).mergeSort Diagnostic.precedes := by
  rw [lint, Linter.lintUnit_eq, List.flatMap_singleton, RegisteredRule.reports]
  congr 2
  funext attr
  rw [contribution, check_snd]
  rfl

/-- Only native elements are spared, and only those that the list names. -/
theorem spares_eq (attr : NodeId) :
    (rule.registeredAs name options).spares unit.tree attr =
      (unit.tree.tagName? attr).any fun tag =>
        isNativeTag tag && AllowList.names options.nativeAllowList tag := by
  rw [RegisteredRule.spares, registeredAs]
  cases options.nativeAllowList <;> cases unit.tree.tagName? attr <;> simp [AllowList.names]

theorem spares_eq_false {attr : NodeId} (h : unit.tree.isNativeElement attr = false) :
    (rule.registeredAs name options).spares unit.tree attr = false := by
  rw [spares_eq]
  cases hTag : unit.tree.tagName? attr with
  | none => rfl
  | some tag =>
      have hNative : isNativeTag tag = false := by
        simpa [SyntaxTree.isNativeElement, hTag] using h
      simp [hNative]

variable {fewer more : RuleOptions} {ambient : Settings}

/-- A list that covers another one spares what that one spares. -/
theorem spares_of_covers (h : AllowList.Covers fewer.nativeAllowList more.nativeAllowList)
    {attr : NodeId} (hSpares : (rule.registeredAs name fewer).spares unit.tree attr) :
    (rule.registeredAs name more).spares unit.tree attr := by
  rw [spares_eq, Option.any_eq_true] at *
  obtain ⟨tag, hTag, hSpared⟩ := hSpares
  obtain ⟨hNative, hNames⟩ := Bool.and_eq_true_iff.mp hSpared
  exact ⟨tag, hTag, Bool.and_eq_true_iff.mpr ⟨hNative, h tag hNative hNames⟩⟩

/-- Options that ask for the directive more readily admit fewer units. -/
theorem admits_of_nextEnabled (hNext : fewer.nextEnabled settings → more.nextEnabled ambient)
    (hAdmits : (rule.registeredAs name more).admits ambient unit) :
    (rule.registeredAs name fewer).admits settings unit := by
  rw [RegisteredRule.admits, Bool.or_eq_true, Bool.not_eq_true'] at *
  refine hAdmits.imp ?_ id
  intro hFree
  exact Bool.eq_false_iff.mpr fun hAsked => Bool.eq_false_iff.mp hFree (hNext hAsked)

/-- If the second options ask for the directive whenever the first do and spare all that the first
spare, every attribute contributes under them what it contributed before, or nothing. -/
theorem contribution_sublist (hNext : fewer.nextEnabled settings → more.nextEnabled ambient)
    (hCovers : AllowList.Covers fewer.nativeAllowList more.nativeAllowList) (attr : NodeId) :
    (rule.contribution name unit more ambient attr).Sublist
      (rule.contribution name unit fewer settings attr) := by
  rw [contribution_eq, contribution_eq]
  split
  · next hMore =>
      obtain ⟨hAdmits, hChecked⟩ := Bool.and_eq_true_iff.mp hMore
      have hFewer : (rule.registeredAs name fewer).spares unit.tree attr = false := by
        refine Bool.eq_false_iff.mpr fun hSpares => ?_
        rw [spares_of_covers hCovers hSpares] at hChecked
        exact Bool.false_ne_true hChecked
      rw [admits_of_nextEnabled hNext hAdmits, hFewer]
      exact List.Sublist.refl _
  · exact List.nil_sublist _

theorem lint_sublist (hNext : fewer.nextEnabled settings → more.nextEnabled ambient)
    (hCovers : AllowList.Covers fewer.nativeAllowList more.nativeAllowList) :
    (rule.lint name unit more ambient).Sublist (rule.lint name unit fewer settings) := by
  rw [lint_eq, lint_eq]
  refine mergeSort_sublist_mergeSort Diagnostic.precedes_trans Diagnostic.precedes_total ?_
  exact List.Sublist.flatMap_right _ fun attr _ => contribution_sublist hNext hCovers attr

/-- No allow list is about an attribute of a component. -/
theorem contribution_of_onComponent {attr : NodeId} (hComponent : unit.tree.OnComponent attr)
    (hNext : fewer.nextEnabled settings = more.nextEnabled ambient) :
    rule.contribution name unit more ambient attr =
      rule.contribution name unit fewer settings attr := by
  have hAdmits : (rule.registeredAs name more).admits ambient unit =
      (rule.registeredAs name fewer).admits settings unit := by
    rw [RegisteredRule.admits, RegisteredRule.admits, registeredAs, registeredAs, hNext]
  rw [contribution_eq, contribution_eq, hAdmits, spares_eq_false hComponent.isNativeElement,
    spares_eq_false hComponent.isNativeElement]

end Rule

/-- Options and settings only take reports away, and more of them the more they allow. Whatever they
are, the reports are among those under the defaults, in the order these have. Of two choices that
agree on whether the directive is asked for, the one whose allow list spares all the tags that the
other one spares has some of its reports, in their order; that covers every way to widen the list.
The reports are those of the attributes, sorted, and an attribute of a component contributes the
same under every allow list. -/
theorem Rule.options_only_silence (rule : Rule) (name : String) (unit : SourceUnit) :
    (∀ options settings, (rule.lint name unit options settings).Sublist
      (rule.lint name unit {} {})) ∧
    (∀ (fewer more : RuleOptions) (settings ambient : Settings),
      fewer.nextEnabled settings = more.nextEnabled ambient →
        AllowList.Covers fewer.nativeAllowList more.nativeAllowList →
          (rule.lint name unit more ambient).Sublist (rule.lint name unit fewer settings)) ∧
    (∀ fewer more : Option AllowList, AllowList.Widens fewer more →
      AllowList.Covers fewer more) ∧
    (∀ options settings, rule.lint name unit options settings =
      (unit.tree.walkedAttributes.flatMap
        (rule.contribution name unit options settings)).mergeSort Diagnostic.precedes) ∧
    ∀ attr, unit.tree.OnComponent attr →
      ∀ (fewer more : RuleOptions) (settings ambient : Settings),
        fewer.nextEnabled settings = more.nextEnabled ambient →
          rule.contribution name unit more ambient attr =
            rule.contribution name unit fewer settings attr := by
  refine ⟨?_, ?_, ?_, ?_, ?_⟩
  · intro options settings
    refine Rule.lint_sublist (fun hAsked => ?_) (AllowList.Widens.start _).covers
    exact absurd hAsked Bool.false_ne_true
  · intro fewer more settings ambient hNext hCovers
    exact Rule.lint_sublist (fun hAsked => hNext.symm.trans hAsked) hCovers
  · intro fewer more hWidens
    exact hWidens.covers
  · intro options settings
    exact Rule.lint_eq
  · intro attr hComponent fewer more settings ambient hNext
    exact Rule.contribution_of_onComponent hComponent hNext

/-- `<div a={[]}><Box b={[]} /></div>;`: both attributes are due a report about an array, and only
the outer one is on a native element. -/
def boxInDiv : Program where
  body := .cons (.expression (.jsxExpr (.element (.plain "div" ⟨1, 4⟩)
    (.cons (.namedAttribute "a" (.present (.container (.present (.array .nil ⟨8, 10⟩)) ⟨7, 11⟩))
      ⟨5, 11⟩) .nil) ⟨0, 12⟩
    (.cons (.nested (.element (.plain "Box" ⟨13, 16⟩)
      (.cons (.namedAttribute "b" (.present (.container (.present (.array .nil ⟨20, 22⟩))
        ⟨19, 23⟩)) ⟨17, 23⟩) .nil) ⟨12, 26⟩ .nil ⟨12, 26⟩)) .nil)
    ⟨0, 32⟩)) ⟨0, 33⟩) .nil
  span := ⟨0, 33⟩

def boxInDivUnit : SourceUnit :=
  boxInDiv.toUnit "test.jsx" "<div a={[]}><Box b={[]} /></div>;"

/-- Native inputs are not checked. -/
def inputsAllowed : RuleOptions := { nativeAllowList := some (.tags ["Input"]) }

/-- Neither are native boxes and divisions. The rule does not ask for the directive. -/
def boxesAllowed : RuleOptions where
  nativeAllowList := some (.tags ["box", "DIV", "input"])
  next := some false

theorem Rule.boxInDiv_silenced :
    AllowList.Widens inputsAllowed.nativeAllowList boxesAllowed.nativeAllowList ∧
      inputsAllowed.nextEnabled {} = boxesAllowed.nextEnabled { next := some true } ∧
      (Builtin.noNewArray.rule.lint "arrays" boxInDivUnit boxesAllowed
        { next := some true }).Sublist
          (Builtin.noNewArray.rule.lint "arrays" boxInDivUnit inputsAllowed {}) ∧
      Builtin.noNewArray.rule.contribution "arrays" boxInDivUnit inputsAllowed {} 3 ≠ [] ∧
      Builtin.noNewArray.rule.contribution "arrays" boxInDivUnit boxesAllowed
        { next := some true } 3 = [] ∧
      Builtin.noNewArray.rule.contribution "arrays" boxInDivUnit inputsAllowed {} 8 ≠ [] ∧
      Builtin.noNewArray.rule.contribution "arrays" boxInDivUnit boxesAllowed
        { next := some true } 8 =
          Builtin.noNewArray.rule.contribution "arrays" boxInDivUnit inputsAllowed {} 8 := by
  have hWidens : AllowList.Widens inputsAllowed.nativeAllowList boxesAllowed.nativeAllowList :=
    .more (by decide +kernel)
  have hNext : inputsAllowed.nextEnabled {} = boxesAllowed.nextEnabled { next := some true } := rfl
  have hComponent : boxInDivUnit.tree.OnComponent 8 := by
    have hOpening : boxInDivUnit.tree.kind? 9 = some (.jsxOpening 5 [8]) := by decide +kernel
    have hTag : boxInDivUnit.tree.kind? 5 = some (.jsxIdentifier "Box") := by decide +kernel
    have hCapital : SyntaxTree.ComponentTag (.jsxIdentifier "Box") :=
      .capital rfl (by decide +kernel)
    exact Program.onComponent_of_mem hOpening hTag hCapital List.mem_cons_self
  obtain ⟨-, hFewer, hCovers, -, hSame⟩ :=
    Rule.options_only_silence Builtin.noNewArray.rule "arrays" boxInDivUnit
  refine ⟨hWidens, hNext, hFewer _ _ _ _ hNext (hCovers _ _ hWidens), ?_, ?_, ?_, ?_⟩
  · decide +kernel
  · decide +kernel
  · decide +kernel
  · exact hSame 8 hComponent _ _ _ _ hNext

end PropTrace

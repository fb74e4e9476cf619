import PropTrace.Proofs.Openings
import PropTrace.Proofs.Uses

/-!
The constructs around a use. A frame is a phrase together with the part of it that the use stands
in, so the way from a use to the program is a list of frames. Some of them open a region; the others
leave the use in the scope it was in.
-/
namespace PropTrace

/-- A phrase and the part of it that something stands in. -/
structure Frame where
  construct : Phrase
  part : Phrase

namespace Syntax

/-- Whether a phrase has a scope of its own for one of its parts. -/
def opensFor : {c : Category} → Syntax c → Phrase → Bool
  | _, .func .., _ | _, .staticBlock .., _ | _, .handler .., _ | _, .block .., _
  | _, .forLoop .., _ | _, .forEach .., _ | _, .namespaceDecl .., _ => true
  | _, .switch .., part => part.category ≠ .expr
  | _, _, _ => false

end Syntax

namespace Outline

def region? : Outline → Option Region
  | .region shape span _ kind inside => some ⟨shape, span, kind, inside⟩
  | _ => none

end Outline

/-- The region that a construct opens around one of its parts. -/
def Frame.region? (frame : Frame) : Option Region :=
  if frame.construct.content.opensFor frame.part then
    frame.construct.outline.head?.bind Outline.region?
  else none

theorem Frame.region?_eq_none (phrase part : Phrase)
    (hOpens : phrase.content.opensFor part = false) : (Frame.mk phrase part).region? = none := by
  simp [region?, hOpens]

theorem Frame.region?_eq (phrase part : Phrase) {shape : Shape} {span : Span}
    {before inside : List Outline} {kind : ScopeKind} (hOpens : phrase.content.opensFor part)
    (hOutline : phrase.outline = [.region shape span before kind inside]) :
    (Frame.mk phrase part).region? = some ⟨shape, span, kind, inside⟩ := by
  simp [region?, hOpens, hOutline, Outline.region?]

/-- A function opens one scope for its parameters and its body. Unless it is a declaration, its own
name stands there as well. -/
theorem functionOutline_eq (kind : FunctionKind) (name : Option Name)
    (params body : List Outline) (span : Span) :
    functionOutline kind name params body span =
      .region (.function kind name.isSome params.length) span
        (if kind = .declaration then name.toList.map fun name => .bind name .here else [])
        .function
        ((if kind = .declaration then [] else name.toList.map fun name => .bind name .here) ++
          params ++ body) := by
  cases kind <;> rfl

namespace Outline

variable (around : List Region)

@[simp]
theorem usesAllUnder_nil : usesAllUnder around [] = [] := by simp [usesAllUnder]

@[simp]
theorem usesAllUnder_use (name : Name) (rest : List Outline) :
    usesAllUnder around (.use name :: rest) = (name, around) :: usesAllUnder around rest := by
  simp [usesAllUnder, usesUnder]

@[simp]
theorem usesAllUnder_bind (name : Name) (place : BindingPlace) (rest : List Outline) :
    usesAllUnder around (.bind name place :: rest) = usesAllUnder around rest := by
  simp [usesAllUnder, usesUnder]

@[simp]
theorem usesAllUnder_node (shape : Shape) (span : Span) (parts rest : List Outline) :
    usesAllUnder around (.node shape span parts :: rest) =
      usesAllUnder around parts ++ usesAllUnder around rest := by
  simp [usesAllUnder, usesUnder]

@[simp]
theorem usesAllUnder_labeled (label : String) (span : Span) (parts rest : List Outline) :
    usesAllUnder around (labeled label span parts :: rest) =
      usesAllUnder around parts ++ usesAllUnder around rest :=
  usesAllUnder_node around (.other label) span parts rest

@[simp]
theorem usesAllUnder_region (shape : Shape) (span : Span) (before inside rest : List Outline)
    (kind : ScopeKind) :
    usesAllUnder around (.region shape span before kind inside :: rest) =
      usesAllUnder around before ++
        usesAllUnder (⟨shape, span, kind, inside⟩ :: around) inside ++
          usesAllUnder around rest := by
  simp [usesAllUnder, usesUnder]

@[simp]
theorem usesAllUnder_append (before after : List Outline) :
    usesAllUnder around (before ++ after) =
      usesAllUnder around before ++ usesAllUnder around after := by
  induction before with
  | nil => simp
  | cons outline before ih => simp [usesAllUnder, ih]

@[simp]
theorem usesAllUnder_map_bind (names : List Name) (place : BindingPlace) :
    usesAllUnder around (names.map fun name => .bind name place) = [] := by
  induction names with
  | nil => simp
  | cons name names ih => simp [ih]

@[simp]
theorem usesAllUnder_jsxName (name : JsxName) (rest : List Outline) :
    usesAllUnder around (name.outline :: rest) = usesAllUnder around rest := by
  cases name <;> simp [JsxName.outline]

@[simp]
theorem usesAllUnder_restOutline (bound : List String) (names : List Name) (span : Span) :
    usesAllUnder around (restOutline bound names span) = [] := by
  rw [restOutline]
  split <;> simp

end Outline

namespace Phrase

open Outline in
/-- The uses of a phrase are its own and those of the parts that lowering enters, each under the
region that the phrase opens around the part. -/
theorem usesAllUnder_outline (phrase : Phrase) (around : List Region) :
    usesAllUnder around phrase.outline =
      (phrase.content.usedName?.toList.map fun name => (name, around)) ++
        (phrase.parts.filter Phrase.entered).flatMap fun part =>
          usesAllUnder ((Frame.mk phrase part).region?.toList ++ around) part.outline := by
  obtain ⟨content, place, flag⟩ := phrase
  cases content <;>
    simp only [parts, Syntax.parts, Syntax.usedName?, Option.toList_none, List.map_nil,
      List.nil_append]
  -- phrases that open a scope for all of their parts or for some
  case func kind name params rest restSpan body span =>
      have hOutline : (Phrase.mk (.func kind name params rest restSpan body span) place
          flag).outline = [_] := congrArg (fun outline => [outline]) (functionOutline_eq ..)
      rw [hOutline]
      have hNamed : ∀ around, usesAllUnder around (if kind = .declaration then [] else
          name.toList.map fun name => Outline.bind name .here) = [] := by
        intro around
        split <;> simp
      have hNamedBefore : usesAllUnder around (if kind = .declaration then
          name.toList.map fun name => Outline.bind name .here else []) = [] := by
        split <;> simp
      simp [Frame.region?_eq _ _ rfl hOutline, hNamed, hNamedBefore]
  case namespaceDecl path body span =>
      change usesAllUnder around [Outline.region _ _ [] _ _] = _
      have hRegion := fun part => Frame.region?_eq ⟨.namespaceDecl path body span, place, flag⟩
        part rfl rfl
      by_cases hPath : path.length = 1 <;> simp [hPath, hRegion]
  case switch discriminant cases span =>
      change usesAllUnder around [Outline.region _ _ _ _ _] = _
      have hOutside := Frame.region?_eq_none ⟨.switch discriminant cases span, place, flag⟩
        discriminant.entered rfl
      have hRegion := Frame.region?_eq ⟨.switch discriminant cases span, place, flag⟩
        cases.entered rfl rfl
      simp [hOutside, hRegion]
  case staticBlock body span =>
      change usesAllUnder around [Outline.region _ _ _ _ _] = _
      simp [fun part => Frame.region?_eq ⟨.staticBlock body span, place, flag⟩ part rfl rfl]
  case handler param body span =>
      change usesAllUnder around [Outline.region _ _ _ _ _] = _
      simp [fun part => Frame.region?_eq ⟨.handler param body span, place, flag⟩ part rfl rfl]
  case block body span =>
      change usesAllUnder around [Outline.region _ _ _ _ _] = _
      simp [fun part => Frame.region?_eq ⟨.block body span, place, flag⟩ part rfl rfl]
  case forLoop head test step body span =>
      change usesAllUnder around [Outline.region _ _ _ _ _] = _
      simp [fun part => Frame.region?_eq ⟨.forLoop head test step body span, place, flag⟩ part
        rfl rfl]
  case forEach kind head collection body span =>
      change usesAllUnder around [Outline.region _ _ _ _ _] = _
      simp [fun part => Frame.region?_eq ⟨.forEach kind head collection body span, place, flag⟩
        part rfl rfl]
  all_goals simp only [Frame.region?, Syntax.opensFor, Bool.false_eq_true, if_false,
    Option.toList_none, List.nil_append]
  -- phrases without outlines, names, and phrases that are outlined by one of their parts or by both
  case nil | absent | signature | headTarget | boundName => exact usesAllUnder_nil around
  case identifier | targetName => exact usesAllUnder_use around _ []
  case present | functionExpr | classExpr | jsxExpr | wrapped | item | method | field | nested
    | headVariables | headExpr | variableDecl | functionDecl | classDecl =>
      exact (List.append_nil _).symm
  case cons | patternMember =>
      change usesAllUnder around (_ ++ _) = _
      simp
  -- phrases with a part that may be missing
  case parameter decorators pattern initial span =>
      cases initial with
      | absent => exact (List.append_nil _).symm
      | present value =>
          change usesAllUnder around [Outline.node _ _ _] = _
          simp
  case shorthand name value span =>
      cases value with
      | absent => exact usesAllUnder_use around name []
      | present value =>
          change usesAllUnder around [Outline.node _ _ _] = _
          simp
  case container value span =>
      cases value with
      | absent => rfl
      | present value =>
          change usesAllUnder around [Outline.node _ _ _] = _
          simp
  -- phrases with a part that is entered only under a condition
  case update operand span =>
      change usesAllUnder around
        [Outline.node _ _ (operand.writtenName?.toList.map Outline.use)] = _
      cases hWritten : operand.writtenName? with
      | none => simp
      | some name => simp [Syntax.outline_of_writtenName? hWritten]
  case chain link span =>
      change usesAllUnder around [Outline.node _ _ (if link.isPlainLink then _ else [])] = _
      cases link.isPlainLink <;> simp
  case targetWrapped wrapper inner span =>
      change usesAllUnder around (if wrapper = .parentheses then _ else [Outline.node _ _ []]) = _
      cases wrapper <;> simp
  case exportNamed declaration span | exportDefault declaration span =>
      change usesAllUnder around
        [Outline.node _ _ (if declaration.isValueDeclaration then _ else [])] = _
      cases declaration.isValueDeclaration <;> simp
  -- phrases whose outline holds more than the outlines of their parts
  case classBody kind decorators name parent members span =>
      change usesAllUnder around
        [Outline.node _ _ ((if kind = .declaration then _ else []) ++ _ ++ _)] = _
      cases kind <;> simp
  case element name attributes openingSpan children span =>
      change usesAllUnder around [Outline.node _ _ (Outline.node _ _ (name.outline :: _) :: _)] = _
      simp
  -- all other phrases become one node
  all_goals
    change usesAllUnder around [Outline.node _ _ _] = _
    simp

/-- The names that a phrase uses where lowering comes to, each with the frames around it, innermost
first, on top of those around the phrase. -/
def usesUnder (path : List Frame) (phrase : Phrase) : List (Name × List Frame) :=
  (phrase.content.usedName?.toList.map fun name => (name, path)) ++
    (phrase.parts.filter Phrase.entered).attach.flatMap fun ⟨part, _⟩ =>
      part.usesUnder (⟨phrase, part⟩ :: path)
termination_by sizeOf phrase.content
decreasing_by
  rename_i hMem
  exact Syntax.sizeOf_lt_of_mem_parts _ (List.mem_filter.mp hMem).1

theorem usesUnder_eq (path : List Frame) (phrase : Phrase) :
    phrase.usesUnder path = (phrase.content.usedName?.toList.map fun name => (name, path)) ++
      (phrase.parts.filter Phrase.entered).flatMap fun part =>
        part.usesUnder (⟨phrase, part⟩ :: path) := by
  rw [usesUnder]
  simp only [List.flatMap_subtype, List.unattach_attach]

/-- The frames around the uses of a phrase leave out none of its uses. -/
theorem map_fst_usesUnder (path : List Frame) (phrase : Phrase) :
    (phrase.usesUnder path).map Prod.fst = phrase.uses := by
  induction phrase using parts_induction generalizing path with
  | step phrase ih =>
      have hUses : phrase.uses = phrase.content.usedName?.toList ++
          (phrase.parts.filter Phrase.entered).flatMap uses := by
        rw [uses, lowered_eq, List.filterMap_cons, List.filterMap_flatMap]
        cases phrase.content.usedName? <;> rfl
      rw [usesUnder_eq, hUses, List.map_append, List.map_flatMap, List.map_map]
      congr 1
      · exact List.map_id _
      · exact List.flatMap_congr fun part hMem => ih part (List.mem_filter.mp hMem).1 _

/-- The regions around the uses of a phrase are those that the frames open. -/
theorem usesAllUnder_eq_map (path : List Frame) (phrase : Phrase) :
    Outline.usesAllUnder (path.filterMap Frame.region?) phrase.outline =
      (phrase.usesUnder path).map (Prod.map id fun path => path.filterMap Frame.region?) := by
  induction phrase using parts_induction generalizing path with
  | step phrase ih =>
      rw [usesAllUnder_outline, usesUnder_eq, List.map_append, List.map_flatMap, List.map_map]
      congr 1
      refine List.flatMap_congr fun part hMem => ?_
      rw [← ih part (List.mem_filter.mp hMem).1]
      cases hRegion : (Frame.mk phrase part).region? <;> simp [hRegion]

end Phrase

end PropTrace

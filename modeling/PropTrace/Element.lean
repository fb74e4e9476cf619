import PropTrace.Text.LowerCase
import PropTrace.Tree.Arena

/-!
The element that carries an attribute. `<div>` is a native element and `<Button>` a component; only
the case of the first character of the tag name decides.
-/
namespace PropTrace

/-- A tag name is native if its first character is its own lower-case form. -/
def isNativeTag (tag : String) : Bool :=
  match tag.toList with
  | [] => false
  | first :: _ => Text.lowerChar first == [first]

namespace SyntaxTree

/-- The tag name of the element that carries an attribute, if it is a plain name. Namespaced and
dotted tags have none. -/
def tagName? (tree : SyntaxTree) (attr : NodeId) : Option String :=
  (tree.parent? attr).bind fun opening =>
    match tree.kind? opening with
    | some (.jsxOpening name _) =>
      match tree.kind? name with
      | some (.jsxIdentifier name) => some name
      | _ => none
    | _ => none

/-- Whether an attribute is carried by a native element; never for other than plain tags. -/
def isNativeElement (tree : SyntaxTree) (attr : NodeId) : Bool :=
  ((tree.tagName? attr).map isNativeTag).getD false

end SyntaxTree

end PropTrace

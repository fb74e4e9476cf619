import PropTrace.Json.Value
import PropTrace.Text.LowerCase
import PropTrace.Text.Quoted

/-!
Options of a rule and how they are read from JSON. Options are an object with two optional members,
or a list of the two values in order; `null` and `true` stand for the defaults, and so does an
empty array. Any other array stands for its first element, which then has to be one of the two
forms itself.
-/
namespace PropTrace

/-- Native elements that are exempt from checking. -/
inductive AllowList where
  /-- Every native element. -/
  | all
  /-- The elements with these tag names, in any letter case. -/
  | tags (names : List String)
  deriving DecidableEq, Repr

/-- Whether the list names a tag. -/
def AllowList.exempts (list : AllowList) (tag : String) : Bool :=
  match list with
  | .all => true
  | .tags names => names.any fun name => Text.lowerCase name == Text.lowerCase tag

/-- What a whole project sets for all of its rules. -/
structure Settings where
  next : Option Bool := none
  deriving DecidableEq, Repr

structure RuleOptions where
  nativeAllowList : Option AllowList := none
  /-- Whether only files that open with a `"use client"` directive are checked. -/
  next : Option Bool := none
  deriving DecidableEq, Repr

/-- Whether the directive is asked for: the option counts before the setting. -/
def RuleOptions.nextEnabled (options : RuleOptions) (settings : Settings) : Bool :=
  (options.next.or settings.next).getD false

/-- What options of the wrong shape were expected to be. -/
inductive OptionsShape where
  | flag | record
  deriving DecidableEq, Repr

/-- Why a value is no options. -/
inductive OptionsFault where
  | unknownMember (name : String)
  | noAllowList
  | wrongShape (found : Json) (expected : OptionsShape)
  | surplus (length : Nat)

namespace OptionsFault

/-- How a value is named in a message. -/
def describe : Json → String
  | .null => "null"
  | .bool true => "boolean `true`"
  | .bool false => "boolean `false`"
  | .number (.int value) => "integer `" ++ toString value ++ "`"
  | .number (.float value) => "floating point `" ++ value.text ++ "`"
  | .string value => "string " ++ Text.quoted value
  | .array _ => "sequence"
  | .object _ => "map"

def message : OptionsFault → String
  | unknownMember name => "unknown field `" ++ name ++ "`, expected `nativeAllowList` or `next`"
  | noAllowList => "data did not match any variant of untagged enum NativeAllowList"
  | wrongShape found .flag => "invalid type: " ++ describe found ++ ", expected a boolean"
  | wrongShape found .record =>
    "invalid type: " ++ describe found ++ ", expected struct RuleOptions"
  | surplus length =>
    "invalid length " ++ toString length ++ ", expected fewer elements in array"

end OptionsFault

namespace AllowList

/-- The texts of an array of strings. -/
def texts? : List Json → Option (List String)
  | [] => some []
  | .string text :: rest => (texts? rest).map (text :: ·)
  | _ => none

/-- An allow list is the word `all`, also as the only member of an object without a value, or an
array of tag names. -/
def ofJson? : Json → Option AllowList
  | .string "all" => some .all
  | .object [("all", .null)] => some .all
  | .array items => (texts? items).map .tags
  | _ => none

def toJson : AllowList → Json
  | all => .string "all"
  | tags names => .array (names.map .string)

end AllowList

namespace RuleOptions

/-- Reads the allow list; `null` stands for none. -/
def withAllowList (options : RuleOptions) : Json → Except OptionsFault RuleOptions
  | .null => .ok { options with nativeAllowList := none }
  | value =>
    match AllowList.ofJson? value with
    | some list => .ok { options with nativeAllowList := some list }
    | none => .error .noAllowList

/-- Reads the directive flag; `null` stands for an unset one. -/
def withNext (options : RuleOptions) : Json → Except OptionsFault RuleOptions
  | .null => .ok { options with next := none }
  | .bool flag => .ok { options with next := some flag }
  | value => .error (.wrongShape value .flag)

/-- Reads one member of an options object. -/
def withMember (options : RuleOptions) (name : String) (value : Json) :
    Except OptionsFault RuleOptions :=
  if name = "nativeAllowList" then options.withAllowList value
  else if name = "next" then options.withNext value
  else .error (.unknownMember name)

/-- Reads the members of an options object in their order; the first fault ends it. -/
def ofMembers (options : RuleOptions) : List (String × Json) → Except OptionsFault RuleOptions
  | [] => .ok options
  | (name, value) :: rest => do
    let options ← options.withMember name value
    ofMembers options rest

/-- Reads the two values in order. -/
def ofItems : List Json → Except OptionsFault RuleOptions
  | [] => .ok {}
  | list :: rest => do
    let options ← withAllowList {} list
    match rest with
    | [] => .ok options
    | next :: surplus => do
      let options ← options.withNext next
      if surplus.isEmpty then .ok options else .error (.surplus (surplus.length + 2))

/-- Reads either form. -/
def ofRecord : Json → Except OptionsFault RuleOptions
  | .object members => ofMembers {} members
  | .array items => ofItems items
  | value => .error (.wrongShape value .record)

/-- Reads options as they stand beside the name of a rule. -/
def ofJson : Json → Except OptionsFault RuleOptions
  | .null => .ok {}
  | .bool true => .ok {}
  | .array [] => .ok {}
  | .array (first :: _) => ofRecord first
  | value => ofRecord value

/-- The object form, with both members. -/
def toJson (options : RuleOptions) : Json :=
  .object [("nativeAllowList", Json.ofOption AllowList.toJson options.nativeAllowList),
    ("next", Json.ofOption Json.bool options.next)]

/-- What a host may check options against. -/
def schema : Json :=
  let allowList := Json.object [("oneOf", .array [
    .object [("enum", .array [.string "all"])],
    .object [("items", .object [("type", .string "string")]), ("type", .string "array")]])]
  .array [.object [
    ("additionalProperties", .bool false),
    ("properties", .object [
      ("nativeAllowList", allowList),
      ("next", .object [("type", .string "boolean")])]),
    ("type", .string "object")]]

end RuleOptions

end PropTrace

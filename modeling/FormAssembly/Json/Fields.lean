import FormAssembly.Json.Basic

/-!
# Records and variants as JSON

A record is stored as an object of its fields, or as an array of them in order. A variant is
stored as its name, or as an object with that name and `null`.
-/

namespace FormAssembly
namespace Json

/-- Values of the named fields. A name that is missing has no value, members of other names are
passed over, and a name must not occur twice. -/
def fieldsOfMembers? (names : List String) (members : List (String × Json)) :
    Option (List (Option Json)) :=
  names.mapM fun name =>
    match members.filter (fun member => member.1 = name) with
    | [] => some none
    | [member] => some (some member.2)
    | _ :: _ :: _ => none

/-- Values of the named fields of a record. In an array there may be fewer items than names, but
not more. -/
def fields? (names : List String) : Json → Option (List (Option Json))
  | .array items =>
      if names.length < items.length then none
      else some (items.map some ++ List.replicate (names.length - items.length) none)
  | json => do fieldsOfMembers? names (← json.members?)

/-- The name of a variant. -/
def variant? : Json → Option String
  | .string body => (Json.string body).text?
  | .object [(name, .null)] => (Json.string name).text?
  | _ => none

end Json
end FormAssembly

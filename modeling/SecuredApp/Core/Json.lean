import SecuredApp.Core.CString

/-!
# JSON values and the json-c library

`json-c` has no object for the JSON `null`: parsing it, parsing a text that is not JSON, and
looking up a key that is not there all give the pointer `NULL`. `Json.null` stands for that
pointer, so that the three cases are one here as they are there.
-/

namespace SecuredApp.Core

/-- A JSON value. -/
inductive Json where
  | null
  | bool (b : Bool)
  | int (n : Int)
  | double (q : Rat)
  | str (s : String)
  | arr (elems : List Json)
  | obj (members : List (String × Json))

namespace Json

/-- `json_object_object_get_ex`: `NULL` for a missing key and for what is not an object. -/
def objectGetEx : Json → String → Json
  | .obj members, key => (members.lookup key).getD .null
  | _, _ => .null

/-- The elements of an array, `none` for every other value. -/
def elems? : Json → Option (List Json)
  | .arr elems => some elems
  | _ => none

lemma elems?_eq_some_iff {j : Json} {elems : List Json} :
    j.elems? = some elems ↔ j = .arr elems := by
  cases j <;> simp [elems?]

end Json

/-- The json-c library: its parser and its printer are parameters, of which a text that ends
before a value is complete is known to parse to `NULL`. -/
structure JsonC where
  tokenerParse : List Char → Json
  toJsonString : Json → String
  tokenerParse_nil : tokenerParse [] = .null

namespace JsonC

/-- A library that parses the texts of a table; to it every other text is malformed. -/
def ofTable (table : List (List Char × Json)) : JsonC where
  tokenerParse text := if text = [] then .null else (table.lookup text).getD .null
  toJsonString _ := ""
  tokenerParse_nil := rfl

variable (J : JsonC)

/-- `json_object_get_string`: the text of a string, `NULL` for `NULL`, and what is printed of
every other value. -/
def getString : Json → Option String
  | .null => none
  | .str s => some s
  | j => some (J.toJsonString j)

/-- The result of `json_object_get_string` as the functions of `<string.h>` read it. -/
def getCStr (j : Json) : Option CStr := (J.getString j).map fun s => cstr s.toList

@[simp] lemma getString_null : J.getString .null = none := rfl

@[simp] lemma getString_str (s : String) : J.getString (.str s) = some s := rfl

@[simp] lemma getCStr_null : J.getCStr .null = none := rfl

@[simp] lemma getCStr_str (s : String) : J.getCStr (.str s) = some (cstr s.toList) := rfl

lemma getString_eq_none_iff {j : Json} : J.getString j = none ↔ j = .null := by
  cases j <;> simp [getString]

lemma getCStr_eq_none_iff {j : Json} : J.getCStr j = none ↔ j = .null := by
  rw [getCStr, Option.map_eq_none_iff, getString_eq_none_iff]

lemma exists_getCStr_iff {j : Json} : (∃ s, J.getCStr j = some s) ↔ j ≠ .null := by
  rw [← Option.isSome_iff_exists, Option.isSome_iff_ne_none, ne_eq, getCStr_eq_none_iff]

end JsonC

end SecuredApp.Core

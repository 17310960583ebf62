import AjoCloud.Common.Text

/-!
# JSON values

What `JSON.parse` returns.  A number is known by the text `String(value)` gives and by whether it
is finite, which is all that is ever asked of one here.
-/

namespace AjoCloud

/-- A number, as far as texts are made from it. -/
structure JsonNumber where
  /-- `String(value)`. -/
  text : String
  /-- `Number.isFinite(value)`. -/
  isFinite : Bool

/-- A JSON value.  The fields of an object are in the order they were written. -/
inductive Json where
  | null
  | bool (b : Bool)
  | number (n : JsonNumber)
  | string (s : String)
  | array (elements : List Json)
  | object (fields : List (String × Json))

namespace Json

/-- `value[key]` for a value that is not null; of two fields with one name the later one counts. -/
def property (value : Json) (key : String) : Option Json :=
  match value with
  | object fields => (fields.reverse.find? fun f ↦ f.1 = key).map (·.2)
  | _ => none

/-- `a ?? b`. -/
def coalesce : Option Json → Option Json → Option Json
  | none, b => b
  | some null, b => b
  | some a, _ => some a

end Json

/-- `!text` does not hold: there is a text, and it is not empty. -/
def truthy (text : Option String) : Option String := text.filter fun t ↦ t ≠ ""

end AjoCloud

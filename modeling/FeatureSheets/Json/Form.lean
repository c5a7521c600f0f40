import FeatureSheets.Entries
import FeatureSheets.Json.Printer
import FeatureSheets.Json.Reader

/-!
# JSON forms

A type with a JSON form can be stored and read back. A record is written as an object and read
from one, whatever the order of its members; members that the record does not have are passed
over, and a member that it has may stand there once. A record is also read from an array of its
values in order, of which the last may be missing.
-/

namespace FeatureSheets

/-- A type whose values are stored as JSON. -/
class JsonForm (α : Type) where
  /-- The stored form of a value. -/
  toJson : α → Json
  /-- The value of a stored form. -/
  ofJson? : Json → Option α

export JsonForm (toJson)

namespace Json

/-- Reads a value from a stored form. -/
def to? (α : Type) [JsonForm α] (v : Json) : Option α :=
  JsonForm.ofJson? v

/-- The stored text of a value. -/
def write {α : Type} [JsonForm α] (a : α) : Text :=
  (toJson a).pretty

/-- The value of a stored text. -/
def read? (α : Type) [JsonForm α] (s : Text) : Option α :=
  (parse? s).bind (to? α)

/-! ## Records -/

/-- Whether a name is the key of at most one member. -/
def isUnrepeated (members : List (Option Text × Json)) (name : Text) : Bool :=
  (members.map Prod.fst).count (some name) ≤ 1

/-- The fields `names` of a record, each with what is stored for it. -/
def fields? (names : List Text) : Json → Option (List (Option Json))
  | .array items =>
    if items.length ≤ names.length then some (names.zipIdx.map fun n => items[n.2]?) else none
  | .object members =>
    if members.all (·.1.isSome) && names.all (isUnrepeated members) then
      some (names.map fun name => members.lookup (some name))
    else none
  | _ => none

/-- A field that has to be there. -/
def required? (α : Type) [JsonForm α] (field : Option Json) : Option α :=
  field.bind (to? α)

/-- A field that has a value of its own when it is missing. -/
def default? {α : Type} [JsonForm α] (value : α) : Option Json → Option α
  | none => some value
  | some v => to? α v

/-! ## The forms of basic types -/

instance : JsonForm Bool where
  toJson := .bool
  ofJson?
    | .bool b => some b
    | _ => none

instance : JsonForm Text where
  toJson := .text
  ofJson?
    | .text s => some s
    | _ => none

/-- Counts are stored as plain numbers; one that does not fit its type is refused. -/
instance : JsonForm UInt64 where
  toJson n := .natural n.toNat
  ofJson?
    | .natural n => if n < UInt64.size then some (.ofNat n) else none
    | _ => none

instance {α : Type} [JsonForm α] : JsonForm (List α) where
  toJson l := .array (l.map toJson)
  ofJson?
    | .array items => items.mapM (to? α)
    | _ => none

instance {α : Type} [JsonForm α] : JsonForm (Option α) where
  toJson
    | none => .null
    | some a => toJson a
  ofJson?
    | .null => some none
    | v => (to? α v).map some

/-- The member of an object that is written only when there is a value. -/
def optionalMember {α : Type} [JsonForm α] (name : Text) (value : Option α) :
    List (Text × Json) :=
  value.toList.map fun a => (name, toJson a)

/-- A member whose key and value spell texts. -/
def entry? : Option Text × Json → Option (Text × Text)
  | (some key, .text value) => some (key, value)
  | _ => none

/-- Entries are stored as an object in their order. A key that is given twice keeps its first
place and its last value. -/
instance : JsonForm Entries where
  toJson e := .record (e.toList.map fun p => (p.1, .text p.2))
  ofJson?
    | .object members => (members.mapM entry?).map Entries.ofList
    | _ => none

end Json

end FeatureSheets

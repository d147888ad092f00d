import ClipSplice.Json.Basic

/-!
# Shapes of values in documents

A *record* is an object with certain members, or an array of their values in order; members that
nobody asked for are passed over. A *choice* is an object with one member whose name says which of
several records it holds. `room` is the number of arrays and objects that may still be opened inside
each other.
-/

namespace ClipSplice.Document

/-- The values of some fields by name. -/
abbrev Fields := List (String × Json)

/-- The arrays and objects that may stand inside each other in a document. -/
def depthLimit : Nat := 127

/-- The members of an object that were asked for. None may be given twice. -/
def fieldsOfMembers (names : List String) : List (Option String × Json) → Option Fields
  | [] => some []
  | (name, value) :: rest => do
    let name ← name
    let fields ← fieldsOfMembers names rest
    if !names.contains name then return fields
    else if (fields.lookup name).isSome then none
    else return (name, value) :: fields

/-- The fields of a record. An array may end early, but holds no further values. -/
def recordOf (names : List String) : Json → Option Fields
  | .object members => fieldsOfMembers names members
  | .array items => if items.length ≤ names.length then some (names.zip items) else none
  | _ => none

/-- The name of a choice and what it holds. -/
def choiceOf : Json → Option (String × Json)
  | .object [(some name, value)] => some (name, value)
  | _ => none

/-- A field that has to be there. -/
def required {α : Type} (fields : Fields) (name : String) (read : Json → Option α) : Option α :=
  (fields.lookup name).bind read

/-- A field that has a value of its own when it is missing. -/
def withDefault {α : Type} (fields : Fields) (name : String) (read : Json → Option α)
    (default : α) : Option α :=
  match fields.lookup name with
  | none => some default
  | some value => read value

/-- A value, or nothing for `null`. -/
def nullable {α : Type} (read : Json → Option α) : Json → Option (Option α)
  | .null => some none
  | value => (read value).map some

/-- A field that may be missing or `null`. -/
def optionalField {α : Type} (fields : Fields) (name : String) (read : Json → Option α) :
    Option (Option α) :=
  withDefault fields name (nullable read) none

/-! ## Simple values -/

/-- A string that names a text. -/
def textOf : Json → Option String
  | .string text => text
  | _ => none

/-- A truth value. -/
def boolOf : Json → Option Bool
  | .bool b => some b
  | _ => none

/-- A whole number from `low` to `high`. -/
def integerOf (low high : Int) : Json → Option Int
  | .number (.integer n) => if low ≤ n ∧ n ≤ high then some n else none
  | _ => none

/-- A natural number below 2^`bits`. -/
def naturalOf (bits : Nat) (value : Json) : Option Nat :=
  (integerOf 0 (Nat.pow 2 bits - 1 : Nat) value).map Int.toNat

/-- The items of an array. -/
def itemsOf : Json → Option (List Json)
  | .array items => some items
  | _ => none

/-- Some texts, in an array. -/
def textsOf (room : Nat) (value : Json) : Option (List String) :=
  if room = 0 then none else (itemsOf value).bind fun items => items.mapM textOf

end ClipSplice.Document

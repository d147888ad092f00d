import ClipSplice.Text.Quoted

/-!
# What is wrong with a rule document

A rule document is refused when it is no JSON of the expected shape, or when a pattern, a set of
flags or a date in it is not valid.
-/

namespace ClipSplice.Document

/-- The fields of a date with its time of day as a document states them. -/
structure DateFields where
  year : Int
  month : Nat
  day : Nat
  hour : Nat
  minute : Nat
  second : Nat
  microsecond : Nat
deriving Repr, DecidableEq

/-- The fields as they are shown in messages. -/
def DateFields.display (d : DateFields) : String :=
  let field (name value : String) := name ++ ": " ++ value
  "DateTimeFields \x7b " ++ ", ".intercalate
    [field "year" (toString d.year), field "month" (toString d.month),
      field "day" (toString d.day), field "hour" (toString d.hour),
      field "minute" (toString d.minute), field "second" (toString d.second),
      field "microsecond" (toString d.microsecond)] ++ " \x7d"

/-- Why a document was refused. -/
inductive Fault where
  | malformed
  | invalidRegex (pattern : String)
  | unknownFlags (bits : Nat)
  | invalidDate (fields : DateFields)
deriving Repr, DecidableEq

/-- The words for a fault. -/
def Fault.message : Fault → String
  | .malformed => "malformed rule document"
  | .invalidRegex pattern => "invalid regex " ++ Text.quoted pattern
  | .unknownFlags bits => "unknown regex flags: 0x" ++ String.ofList (Text.hex bits)
  | .invalidDate fields => "invalid date: " ++ fields.display

end ClipSplice.Document

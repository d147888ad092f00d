/-!
# JSON values

A value as it stands in a text. The members of an object keep their order and may repeat a name. A
string whose escapes name no text is kept as nothing: it does no harm where nobody asks for it.
-/

namespace ClipSplice

/-- A number. -/
inductive JsonNumber where
  | integer (n : Int)
  /-- `significand` times ten to the power `exponent`, written with a point or an exponent; a zero
  with a sign in front counts as such, too. -/
  | decimal (significand : Nat) (exponent : Int)
deriving Repr, DecidableEq

/-- A value. -/
inductive Json where
  | null
  | bool (b : Bool)
  | number (n : JsonNumber)
  | string (text : Option String)
  | array (items : List Json)
  | object (members : List (Option String × Json))
deriving Repr

/-- The least number that is too large for a double: it would be rounded to 2^1024. -/
def doubleLimit : Nat := Nat.pow 2 1024 - Nat.pow 2 970

/-- Whether a number can be rounded to a double. -/
def JsonNumber.isDouble : JsonNumber → Bool
  | integer n => n.natAbs < doubleLimit
  | decimal significand exponent =>
    let digits : Int := (Nat.toDigits 10 significand).length
    if significand = 0 || digits + exponent < 300 then true
    else if 320 < digits + exponent then false
    else if 0 ≤ exponent then significand * Nat.pow 10 exponent.toNat < doubleLimit
    else significand < doubleLimit * Nat.pow 10 (-exponent).toNat

namespace Json

mutual

/-- Whether everything in a value can be taken as it is: texts for all strings, doubles for all
numbers, and at most `room` arrays and objects inside each other. -/
def fits (room : Nat) : Json → Bool
  | null => true
  | bool _ => true
  | number n => n.isDouble
  | string text => text.isSome
  | array items => 0 < room && itemsFit (room - 1) items
  | object members => 0 < room && membersFit (room - 1) members

/-- Whether all items of an array fit. -/
def itemsFit (room : Nat) : List Json → Bool
  | [] => true
  | item :: rest => fits room item && itemsFit room rest

/-- Whether all members of an object fit. -/
def membersFit (room : Nat) : List (Option String × Json) → Bool
  | [] => true
  | (name, value) :: rest => name.isSome && fits room value && membersFit room rest

end

end Json

end ClipSplice

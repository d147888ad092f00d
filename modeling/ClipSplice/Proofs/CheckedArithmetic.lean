import ClipSplice.Audio.Params
import Mathlib

/-!
# Arithmetic in machine words

Sizes, places and rates are natural numbers in this library, and a number that is divided by zero
or a place behind the end of some bytes still gives a value. A machine keeps numbers in words of 64
bits and stops where there is no value. A `Checked` computation does the same: a sum and a product
have to fit a word, a divisor must not be zero, and bytes are taken only from where there are some.
Where the checked form of a function ends with the very value of that function, none of this stops
it, and the words are wide enough for all numbers on the way.
-/

namespace ClipSplice

/-- What stops a computation in words. -/
inductive Trap where
  /-- A sum or a product does not fit a word. -/
  | overflow
  | zeroDivisor
  /-- Bytes are taken from behind the end. -/
  | outOfRange
deriving Repr, DecidableEq

/-- A computation in words. -/
abbrev Checked (α : Type) := Except Trap α

namespace Checked

/-- A sum that fits a word. -/
def sum (a b : Nat) : Checked Nat :=
  if a + b < 2 ^ 64 then .ok (a + b) else .error .overflow

/-- A product that fits a word. -/
def product (a b : Nat) : Checked Nat :=
  if a * b < 2 ^ 64 then .ok (a * b) else .error .overflow

/-- A quotient, rounded down. -/
def quotient (a b : Nat) : Checked Nat :=
  if b = 0 then .error .zeroDivisor else .ok (a / b)

/-- The bytes from one place up to another, if there are as many. -/
def part? (bytes : Bytes) (start stop : Nat) : Option Bytes :=
  if start ≤ stop ∧ stop ≤ bytes.length then some ((bytes.drop start).take (stop - start)) else none

/-- The bytes from one place up to another, of which there have to be as many. -/
def part (bytes : Bytes) (start stop : Nat) : Checked Bytes :=
  match part? bytes start stop with
  | some part => .ok part
  | none => .error .outOfRange

/-- The byte at a place, where there has to be one. -/
def byteAt (bytes : Bytes) (place : Nat) : Checked UInt8 :=
  match bytes[place]? with
  | some byte => .ok byte
  | none => .error .outOfRange

/-! ## Steps that are not stopped -/

variable {a b : Nat}

theorem sum_eq_ok (h : a + b < 2 ^ 64) : sum a b = .ok (a + b) := if_pos h

theorem product_eq_ok (h : a * b < 2 ^ 64) : product a b = .ok (a * b) := if_pos h

theorem quotient_eq_ok (h : b ≠ 0) : quotient a b = .ok (a / b) := if_neg h

/-- What follows a step goes on with its value. -/
theorem bind_of_eq_ok {α β : Type} {step : Checked α} {value : α} (h : step = .ok value)
    (next : α → Checked β) : (step >>= next) = next value := by
  rw [h]
  rfl

/-! ## Parts of bytes -/

theorem part?_eq_some {bytes : Bytes} {start stop : Nat} (hstart : start ≤ stop)
    (hstop : stop ≤ bytes.length) :
    part? bytes start stop = some ((bytes.drop start).take (stop - start)) :=
  if_pos ⟨hstart, hstop⟩

theorem part_eq_ok {bytes : Bytes} {start stop : Nat} (hstart : start ≤ stop)
    (hstop : stop ≤ bytes.length) :
    part bytes start stop = .ok ((bytes.drop start).take (stop - start)) := by
  rw [part, part?_eq_some hstart hstop]

/-- All bytes from a place on. -/
theorem part_length {bytes : Bytes} {start : Nat} (h : start ≤ bytes.length) :
    part bytes start bytes.length = .ok (bytes.drop start) := by
  rw [part_eq_ok h (Nat.le_refl _), List.take_of_length_le]
  rw [List.length_drop]

/-- There are four certain letters at an offset just when the bytes there, of which there may be
fewer, are these letters. -/
theorem part?_eq_letters_iff (bytes : Bytes) (offset : Nat) (a b c d : Char) :
    part? bytes offset (offset + 4) = some (fourLetters a b c d) ↔
      fourBytes bytes offset = fourLetters a b c d := by
  by_cases hroom : offset + 4 ≤ bytes.length
  · rw [part?_eq_some (by omega) hroom, Nat.add_sub_cancel_left, Option.some.injEq, fourBytes]
  · rw [part?, if_neg (fun h => hroom h.2)]
    constructor
    · exact nofun
    · intro hletters
      have hlength : (fourBytes bytes offset).length = 4 := by
        rw [hletters]
        rfl
      rw [fourBytes, List.length_take, List.length_drop] at hlength
      omega

/-! ## Numbers of 32 bits -/

/-- The number of 32 bits, most significant byte first, at an offset, if there are four bytes. -/
def word? (bytes : Bytes) (offset : Nat) : Checked (Option Nat) := do
  let stop ← sum offset 4
  match part? bytes offset stop with
  | none => .ok none
  | some four =>
    let a ← byteAt four 0
    let b ← byteAt four 1
    let c ← byteAt four 2
    let d ← byteAt four 3
    .ok (some (((a.toNat * 256 + b.toNat) * 256 + c.toNat) * 256 + d.toNat))

theorem word?_eq {bytes : Bytes} {offset : Nat} (h : offset + 4 < 2 ^ 64) :
    word? bytes offset = .ok (ClipSplice.word? bytes offset) := by
  rw [word?, bind_of_eq_ok (sum_eq_ok h), ClipSplice.word?]
  by_cases hroom : offset + 4 ≤ bytes.length
  · rw [part?_eq_some (by omega) hroom, Nat.add_sub_cancel_left]
    have hlength : 4 ≤ (bytes.drop offset).length := by
      rw [List.length_drop]
      omega
    match bytes.drop offset, hlength with
    | _ :: _ :: _ :: _ :: _, _ => rfl
  · rw [part?, if_neg (fun h => hroom h.2)]
    have hlength : (bytes.drop offset).length < 4 := by
      rw [List.length_drop]
      omega
    match bytes.drop offset, hlength with
    | [], _ | [_], _ | [_, _], _ | [_, _, _], _ => rfl

end Checked

/-- A number of 32 bits. -/
theorem word?_lt {bytes : Bytes} {offset n : Nat} (h : word? bytes offset = some n) :
    n < 2 ^ 32 := by
  unfold word? at h
  split at h
  · rename_i a b c d _ _
    have ha := a.toNat_lt
    have hb := b.toNat_lt
    have hc := c.toNat_lt
    have hd := d.toNat_lt
    obtain rfl := Option.some.inj h
    omega
  · cases h

end ClipSplice

import ClipSplice.RuleText.Fault
import Mathlib

/-!
# The slices of a fault

What a fault shows of its source are slices between byte offsets. Such a slice exists only when its
ends lie in the source, one behind the other, and not inside a character. `Fault.fromSlices?` puts a
fault together from slices that may fail, and none of them fails at any offset
(`Fault.fromSlices?_eq`).
-/

namespace ClipSplice

namespace Text

/-! ## Slices -/

/-- A text cut at a byte offset, if the offset is in the text and not inside a character. -/
def splitAt? : Nat → List Char → Option (List Char × List Char)
  | 0, text => some ([], text)
  | _ + 1, [] => none
  | n + 1, c :: rest =>
    if c.utf8Size ≤ n + 1 then
      (splitAt? (n + 1 - c.utf8Size) rest).map fun (front, back) => (c :: front, back)
    else none

/-- A cut loses nothing and is made at the offset. -/
theorem splitAt?_eq_some_iff {n : Nat} {text front back : List Char} :
    splitAt? n text = some (front, back) ↔ text = front ++ back ∧ byteSize front = n := by
  induction text generalizing n front with
  | nil =>
    cases n <;> cases front <;> simp [splitAt?, byteSize, eq_comm]
  | cons c rest ih =>
    have hc := c.utf8Size_pos
    cases n with
    | zero =>
      cases front with
      | nil => simp [splitAt?, byteSize, eq_comm]
      | cons d front =>
        have hd := d.utf8Size_pos
        simp [splitAt?, byteSize]
        omega
    | succ n =>
      cases front with
      | nil => simp [splitAt?, byteSize]
      | cons d front =>
        rw [splitAt?, byteSize, List.cons_append, List.cons.injEq]
        constructor
        · intro h
          split at h
          case isFalse => cases h
          case isTrue hle =>
            obtain ⟨⟨front', back'⟩, hsplit, hsame⟩ := Option.map_eq_some_iff.1 h
            cases hsame
            obtain ⟨hrest, hsize⟩ := ih.1 hsplit
            exact ⟨⟨rfl, hrest⟩, by omega⟩
        · rintro ⟨⟨rfl, hrest⟩, hsize⟩
          rw [if_pos (by omega), ih.2 ⟨hrest, by omega⟩]
          rfl

/-- The slice of a text from one byte offset to another. -/
def slice? (start stop : Nat) (text : List Char) : Option (List Char) :=
  (splitAt? stop text).bind fun (front, _) =>
    (splitAt? start front).map fun (_, piece) => piece

/-- A slice is what stands between its two ends. -/
theorem slice?_eq_some_iff {start stop : Nat} {text piece : List Char} :
    slice? start stop text = some piece ↔
      ∃ front back, text = front ++ piece ++ back ∧ byteSize front = start ∧
        byteSize (front ++ piece) = stop := by
  unfold slice?
  constructor
  · intro h
    obtain ⟨⟨upTo, back⟩, hstop, h⟩ := Option.bind_eq_some_iff.1 h
    obtain ⟨⟨front, found⟩, hstart, hfound⟩ := Option.map_eq_some_iff.1 h
    cases hfound
    obtain ⟨htext, hsize⟩ := splitAt?_eq_some_iff.1 hstop
    obtain ⟨hupTo, hstart⟩ := splitAt?_eq_some_iff.1 hstart
    exact ⟨front, back, by rw [htext, hupTo], hstart, by rw [← hupTo, hsize]⟩
  · rintro ⟨front, back, htext, hstart, hstop⟩
    have hsplit : splitAt? start (front ++ piece) = some (front, piece) :=
      splitAt?_eq_some_iff.2 ⟨rfl, hstart⟩
    rw [splitAt?_eq_some_iff.2 ⟨htext, hstop⟩, Option.bind_some]
    dsimp only
    rw [hsplit]
    rfl

/-! ## Offsets inside characters -/

/-- The last offset up to a given one that is not inside a character. -/
def boundaryBelow (text : List Char) : Nat → Nat
  | 0 => 0
  | n + 1 => if (splitAt? (n + 1) text).isSome then n + 1 else boundaryBelow text n

theorem boundaryBelow_eq {text : List Char} {m n : Nat} (hm : (splitAt? m text).isSome = true)
    (hle : m ≤ n) (hinside : ∀ k, m < k → k ≤ n → (splitAt? k text).isSome = false) :
    boundaryBelow text n = m := by
  induction n with
  | zero => exact (Nat.le_zero.1 hle).symm
  | succ n ih =>
    rw [boundaryBelow]
    by_cases hlast : m = n + 1
    · rw [if_pos (hlast ▸ hm), hlast]
    · rw [if_neg (by simp [hinside (n + 1) (by omega) le_rfl])]
      exact ih (by omega) fun k hk hkn => hinside k hk (by omega)

/-- The part that fits into `n` bytes ends in front of a character that does not, or at the end. -/
theorem byteSize_splitAtByte (n : Nat) (text : List Char) :
    byteSize (splitAtByte n text).1 ≤ n ∧
      ∀ c ∈ (splitAtByte n text).2.head?, n < byteSize (splitAtByte n text).1 + c.utf8Size := by
  induction text generalizing n with
  | nil => simp [splitAtByte, byteSize]
  | cons c rest ih =>
    by_cases hfits : c.utf8Size ≤ n
    · obtain ⟨hle, hnext⟩ := ih (n - c.utf8Size)
      simp only [splitAtByte, if_pos hfits, byteSize]
      exact ⟨by omega, fun d hd => by have := hnext d hd; omega⟩
    · simp only [splitAtByte, if_neg hfits, byteSize]
      refine ⟨Nat.zero_le n, ?_⟩
      rintro _ ⟨⟩
      omega

/-- Going back from an offset to the next boundary ends where the longest part that fits does. -/
theorem boundaryBelow_min (offset : Nat) (text : List Char) :
    boundaryBelow text (min offset (byteSize text)) = byteSize (splitAtByte offset text).1 := by
  obtain ⟨hle, hnext⟩ := byteSize_splitAtByte offset text
  have htext := splitAtByte_append offset text
  generalize (splitAtByte offset text).1 = front at *
  generalize (splitAtByte offset text).2 = back at *
  have hsize : byteSize text = byteSize front + byteSize back := by
    rw [← htext, byteSize_append]
  refine boundaryBelow_eq (by rw [splitAt?_eq_some_iff.2 ⟨htext.symm, rfl⟩]; rfl) (by omega) ?_
  intro k hk hkn
  by_contra hsplit
  obtain ⟨⟨front', back'⟩, hsplit⟩ := Option.isSome_iff_exists.1 (Bool.not_eq_false _ ▸ hsplit)
  obtain ⟨htext', hk'⟩ := splitAt?_eq_some_iff.1 hsplit
  rcases List.append_eq_append_iff.1 (htext.trans htext') with
    ⟨more, hfront, hback⟩ | ⟨more, hfront, -⟩
  · -- a longer front takes at least the next character with it
    cases more with
    | nil =>
      rw [hfront, List.append_nil] at hk'
      omega
    | cons c more =>
      have hc := hnext c (by rw [hback]; rfl)
      rw [hfront, byteSize_append, byteSize] at hk'
      omega
  · rw [hfront, byteSize_append] at hk
    omega

/-! ## Lines -/

/-- The offset of the last occurrence of a character. -/
def lastIndex? (c : Char) : List Char → Option Nat
  | [] => none
  | d :: rest =>
    match lastIndex? c rest with
    | some n => some (d.utf8Size + n)
    | none => if d = c then some 0 else none

/-- The offset at which the last line of a text starts. -/
def lineStart (text : List Char) : Nat := (lastIndex? '\n' text).elim 0 (· + 1)

theorem lastIndex?_cases (c : Char) (text : List Char) :
    lastIndex? c text = none ∧ c ∉ text ∨
      ∃ front back, lastIndex? c text = some (byteSize front) ∧ text = front ++ c :: back ∧
        c ∉ back := by
  induction text with
  | nil => exact .inl ⟨rfl, List.not_mem_nil⟩
  | cons d rest ih =>
    rw [lastIndex?]
    rcases ih with ⟨hnone, habsent⟩ | ⟨front, back, hsome, rfl, habsent⟩
    · rw [hnone]
      dsimp only
      split
      · rename_i hd
        exact .inr ⟨[], rest, rfl, by rw [hd]; rfl, habsent⟩
      · rename_i hd
        exact .inl ⟨rfl, by simp [habsent, Ne.symm hd]⟩
    · rw [hsome]
      exact .inr ⟨d :: front, back, rfl, rfl, habsent⟩

theorem reverse_takeWhile_reverse (front : List Char) {line : List Char}
    (hfront : ∀ c ∈ front.getLast?, c = '\n') (hline : '\n' ∉ line) :
    ((front ++ line).reverse.takeWhile (· ≠ '\n')).reverse = line := by
  have hall : ∀ c ∈ line.reverse, decide (c ≠ '\n') = true := by
    intro c hc
    rw [decide_eq_true_eq]
    exact fun h => hline (h ▸ List.mem_reverse.1 hc)
  have hnone : front.reverse.takeWhile (· ≠ '\n') = [] := by
    cases hreverse : front.reverse with
    | nil => rfl
    | cons c more =>
      have hc := hfront c (by rw [← List.head?_reverse, hreverse]; rfl)
      rw [List.takeWhile_cons_of_neg (by simp [hc])]
  rw [List.reverse_append, List.takeWhile_append_of_pos hall, hnone, List.append_nil,
    List.reverse_reverse]

/-- What stands on the last line of `before` is a slice of any text that starts with it. -/
theorem slice?_lineStart (before after : List Char) :
    slice? (lineStart before) (byteSize before) (before ++ after) =
      some (before.reverse.takeWhile (· ≠ '\n')).reverse := by
  rw [slice?_eq_some_iff, lineStart]
  rcases lastIndex?_cases '\n' before with ⟨hnone, habsent⟩ | ⟨front, back, hsome, rfl, habsent⟩
  · have hline := reverse_takeWhile_reverse [] (by simp) habsent
    rw [List.nil_append] at hline
    rw [hnone, hline]
    exact ⟨[], after, rfl, rfl, rfl⟩
  · have hline := reverse_takeWhile_reverse (front ++ ['\n']) (by simp [eq_comm]) habsent
    rw [List.append_assoc, List.singleton_append] at hline
    rw [hsome, hline]
    refine ⟨front ++ ['\n'], after, by simp, ?_, by simp⟩
    rw [byteSize_append]
    rfl

end Text

/-! ## Faults -/

namespace RuleText.Fault

/-- The fault at a byte offset of a source, put together from slices of the source: the text before
the offset and from it on, and what stands before the offset on its line. -/
def fromSlices? (source : String) (offset : Nat) (cause : Cause) : Option Fault := do
  let text := source.toList
  let place := Text.boundaryBelow text (min offset (Text.byteSize text))
  let before ← Text.slice? 0 place text
  let after ← Text.slice? place (Text.byteSize text) text
  let rest := Text.trim (Text.firstLine after)
  let excerpt ←
    if rest.isEmpty then (Text.slice? (Text.lineStart before) place text).map Text.trim
    else some rest
  return {
    line := before.count '\n' + 1
    excerpt := String.ofList
      (if excerpt.isEmpty then "end of input".toList else excerpt.take excerptLimit)
    cause }

/-- Every slice exists, at an offset past the end and inside a character too. -/
theorem fromSlices?_eq (source : String) (offset : Nat) (cause : Cause) :
    fromSlices? source offset cause = some (.atOffset source offset cause) := by
  have htext := Text.splitAtByte_append offset source.toList
  simp only [fromSlices?, Text.boundaryBelow_min, atOffset, excerptOf]
  generalize (Text.splitAtByte offset source.toList).1 = before at *
  generalize (Text.splitAtByte offset source.toList).2 = after at *
  have hbefore : Text.slice? 0 (Text.byteSize before) source.toList = some before :=
    Text.slice?_eq_some_iff.2 ⟨[], after, htext.symm, rfl, rfl⟩
  have hafter : Text.slice? (Text.byteSize before) (Text.byteSize source.toList) source.toList =
      some after :=
    Text.slice?_eq_some_iff.2 ⟨before, [], by rw [htext, List.append_nil], rfl, by rw [htext]⟩
  have hline := Text.slice?_lineStart before after
  rw [htext] at hline
  simp only [hbefore, hafter, hline, Option.bind_eq_bind, Option.bind_some, Option.map_some]
  split <;> rfl

end RuleText.Fault

end ClipSplice

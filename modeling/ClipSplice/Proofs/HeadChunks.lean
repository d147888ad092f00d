import ClipSplice.Proofs.CheckedArithmetic
import ClipSplice.Proofs.SpliceRun
import Mathlib

/-!
# Chunks of the head

The head of a splice is produced in chunks, and each chunk ends where the chunk size is added to how
much of the head has been produced. Options can hold any chunk size of a word but zero, and so the
sum may be more than a word holds. It is never taken then: the chunks of a head are as long as each
other except for the last one, so that a part of the head has only been produced if the chunk size
is less than the head (`Splice.WithinHead`). One call of `next` keeps this (`WithinHead.next`), and
so does every run from the start of a splice on (`Reached.withinHead`). What a call in the head does
then comes out in words as it is (`next_inWords`), and the head comes to an end
(`Reached.phase_afterCalls_ne_head`).
-/

namespace ClipSplice

/-! ## Options -/

namespace SpliceOptions

/-- The options that can be built: a chunk size is set from a word. -/
inductive Made : SpliceOptions → Prop
  | default : Made {}
  | chunkSize {options : SpliceOptions} {size : Nat} (made : Made options) (hsize : size < 2 ^ 64) :
    Made (options.withChunkSize size)
  | tagSource {options : SpliceOptions} (made : Made options) (source : FilePath) :
    Made { options with tagSource := some source }
  | engine {options : SpliceOptions} (made : Made options) (engine : Engine) :
    Made { options with engine }

/-- Every chunk size that options hold is a word, and a chunk holds at least one byte. -/
theorem Made.chunkSize_bounds {options : SpliceOptions} (h : options.Made) :
    0 < options.chunkSize ∧ options.chunkSize < 2 ^ 64 := by
  induction h with
  | default => exact ⟨by decide, by decide⟩
  | chunkSize _ hsize _ =>
    simp only [withChunkSize]
    omega
  | tagSource _ _ ih => exact ih
  | engine _ _ ih => exact ih

end SpliceOptions

/-! ## Heads -/

namespace Id3v2

theorem announcedSize?_lt {bytes : Bytes} {announced : Nat}
    (h : announcedSize? bytes = some announced) : announced < 2 ^ 28 + 2 * headerSize := by
  unfold announcedSize? at h
  split at h
  · split at h
    · obtain rfl := Option.some.inj h
      simp only [synchsafe, List.foldl_cons, List.foldl_nil]
      split <;> omega
    · cases h
  · cases h

/-- Four bytes of seven bits do not announce a long tag. -/
theorem length_read_lt (bytes : Bytes) : (read bytes).length < 2 ^ 29 := by
  have hheader : headerSize = 10 := rfl
  unfold read
  split
  · decide
  · rename_i announced hannounced
    have hbound := announcedSize?_lt hannounced
    rw [List.length_take]
    split <;> omega

end Id3v2

namespace Splice

variable {tree : FileTree} {options : SpliceOptions} {size : Nat} {head : Bytes} {s : Splice}

/-! ## Steps in words -/

/-- The step in the head, in words. -/
def checkedNextOfHead (tree : FileTree) (s : Splice) : Checked (Option Item × Splice) :=
  if s.offset < s.head.length then do
    let reach ← Checked.sum s.offset s.chunkSize
    let stop := min s.head.length reach
    let chunk ← Checked.part s.head s.offset stop
    .ok (some (.ok chunk), { s with offset := stop })
  else .ok (nextOfBody tree { s with phase := .body })

/-- The next piece in words. Nothing is computed with sizes behind the head. -/
def checkedNext (tree : FileTree) (s : Splice) : Checked (Option Item × Splice) :=
  match s.phase with
  | .head => checkedNextOfHead tree s
  | .body | .tail | .done => .ok (s.next tree)

/-! ## States -/

/-- The states of a splice with some options and a head: those after any calls of `next`. The files
may change between two calls. -/
inductive Reached (options : SpliceOptions) (head : Bytes) : Splice → Prop
  | begin (body : Body) (tail : Bytes) :
    Reached options head ⟨options.chunkSize, .head, head, 0, body, tail⟩
  | next {s : Splice} (reached : Reached options head s) (tree : FileTree) :
    Reached options head (s.next tree).2

theorem framingTags_head_lt {source : Option FilePath} {tail : Option Bytes}
    (h : framingTags tree source = .ok (head, tail)) : head.length < 2 ^ 29 := by
  cases source with
  | none =>
    cases h
    decide
  | some source =>
    simp only [framingTags] at h
    split at h
    · cases h
    · cases h
      exact Id3v2.length_read_lt _

/-- A splice that has been started is in such a state, and its head is one that a machine can
hold. -/
theorem reached_of_start {programs : Programs} {files : List FilePath}
    (h : start tree programs files options = .ok s) :
    Reached options s.head s ∧ s.head.length < 2 ^ 63 := by
  cases hbody : options.engine.start tree programs files with
  | error e =>
    -- whatever the tags are, nothing is started without an engine
    unfold start at h
    rw [hbody] at h
    repeat' split at h
    all_goals cases h
  | ok body =>
    rw [start_of_engine hbody] at h
    split at h
    · cases h
    · rename_i head tail htags
      cases h
      exact ⟨.begin body _, (framingTags_head_lt htags).trans (by decide)⟩

/-- How far a splice has got in its head. -/
structure WithinHead (size : Nat) (head : Bytes) (s : Splice) : Prop where
  head_eq : s.head = head
  chunkSize_eq : s.chunkSize = size
  offset_le : s.offset ≤ head.length
  /-- There is something behind the first chunk only if that is shorter than the head. -/
  chunkSize_lt : 0 < s.offset → s.offset < head.length → size < head.length

theorem withinHead_begin (size : Nat) (head : Bytes) (body : Body) (tail : Bytes) :
    WithinHead size head ⟨size, .head, head, 0, body, tail⟩ where
  head_eq := rfl
  chunkSize_eq := rfl
  offset_le := Nat.zero_le _
  chunkSize_lt := fun hpositive _ => absurd hpositive (Nat.lt_irrefl 0)

/-- Body, tail and phase do not matter. -/
theorem WithinHead.congr (h : s.WithinHead size head) {s' : Splice} (hhead : s'.head = s.head)
    (hsize : s'.chunkSize = s.chunkSize) (hoffset : s'.offset = s.offset) :
    s'.WithinHead size head where
  head_eq := hhead.trans h.head_eq
  chunkSize_eq := hsize.trans h.chunkSize_eq
  offset_le := hoffset ▸ h.offset_le
  chunkSize_lt := hoffset ▸ h.chunkSize_lt

theorem WithinHead.nextOfTail (h : s.WithinHead size head) :
    s.nextOfTail.2.WithinHead size head := by
  unfold Splice.nextOfTail
  split <;> exact h.congr rfl rfl rfl

theorem WithinHead.nextOfBody (h : s.WithinHead size head) (tree : FileTree) :
    (s.nextOfBody tree).2.WithinHead size head := by
  unfold Splice.nextOfBody
  split
  · exact h.congr rfl rfl rfl
  · exact h.congr rfl rfl rfl
  · exact WithinHead.nextOfTail (h.congr rfl rfl rfl)

theorem WithinHead.nextOfHead (h : s.WithinHead size head) (tree : FileTree) :
    (s.nextOfHead tree).2.WithinHead size head := by
  unfold Splice.nextOfHead
  split
  · refine ⟨h.head_eq, h.chunkSize_eq, ?_, ?_⟩
    · rw [h.head_eq]
      exact Nat.min_le_left _ _
    · -- a chunk that does not end with the head has the full size
      simp only [h.head_eq, h.chunkSize_eq]
      omega
  · have hbody : WithinHead size head { s with phase := .body } := h.congr rfl rfl rfl
    exact hbody.nextOfBody tree

/-- What holds of the head in one state holds in the next one. -/
theorem WithinHead.next (h : s.WithinHead size head) (tree : FileTree) :
    (s.next tree).2.WithinHead size head := by
  unfold Splice.next
  cases s.phase with
  | head => exact h.nextOfHead tree
  | body => exact h.nextOfBody tree
  | tail => exact h.nextOfTail
  | done => exact h

theorem Reached.withinHead (h : Reached options head s) :
    s.WithinHead options.chunkSize head := by
  induction h with
  | begin body tail => exact withinHead_begin _ head body tail
  | next _ tree ih => exact ih.next tree

/-! ## One call -/

/-- No sum that is taken leaves its word: either nothing is produced yet, or both its terms are less
than the length of the head. -/
theorem WithinHead.sum_lt (h : s.WithinHead size head) (hsize : size < 2 ^ 64)
    (hlength : head.length < 2 ^ 63) (hleft : s.offset < head.length) :
    s.offset + s.chunkSize < 2 ^ 64 := by
  have hlater := h.chunkSize_lt
  rw [h.chunkSize_eq]
  omega

theorem WithinHead.checkedNext_eq (h : s.WithinHead size head) (hsize : size < 2 ^ 64)
    (hlength : head.length < 2 ^ 63) (tree : FileTree) :
    s.checkedNext tree = .ok (s.next tree) := by
  unfold checkedNext Splice.next
  cases s.phase with
  | head =>
    simp only [checkedNextOfHead, Splice.nextOfHead]
    by_cases hleft : s.offset < s.head.length
    · have hsum := h.sum_lt hsize hlength (h.head_eq ▸ hleft)
      rw [if_pos hleft, if_pos hleft, Checked.bind_of_eq_ok (Checked.sum_eq_ok hsum)]
      exact Checked.bind_of_eq_ok (Checked.part_eq_ok (by omega) (Nat.min_le_left _ _)) _
    · rw [if_neg hleft, if_neg hleft]
  | body | tail | done => rfl

theorem phase_nextOfTail (s : Splice) : s.nextOfTail.2.phase = .done := by
  unfold nextOfTail
  split <;> rfl

theorem phase_nextOfBody_ne_head (tree : FileTree) (h : s.phase ≠ .head) :
    (s.nextOfBody tree).2.phase ≠ .head := by
  unfold nextOfBody
  split
  · exact h
  · exact nofun
  · rw [phase_nextOfTail]
    exact nofun

/-- The head is not gone back to. -/
theorem phase_next_ne_head (tree : FileTree) (h : s.phase ≠ .head) :
    (s.next tree).2.phase ≠ .head := by
  unfold next
  cases hphase : s.phase with
  | head => exact absurd hphase h
  | body => exact phase_nextOfBody_ne_head tree h
  | tail =>
    rw [phase_nextOfTail]
    exact nofun
  | done => exact h

/-- What a call of `next` in the head does: while something is left, it answers a chunk of it and
moves behind that chunk; then it leaves the head. -/
inductive HeadStep (tree : FileTree) (s : Splice) : Prop
  | chunk (chunk : Bytes) (hne : chunk ≠ []) (hpart : chunk <+: s.head.drop s.offset)
    (hsize : chunk.length ≤ s.chunkSize)
    (hnext : s.next tree = (some (.ok chunk), { s with offset := s.offset + chunk.length }))
  | leave (hend : s.offset = s.head.length) (hphase : (s.next tree).2.phase ≠ .head)

theorem WithinHead.headStep (h : s.WithinHead size head) (hsize : 0 < size)
    (hphase : s.phase = .head) (tree : FileTree) : s.HeadStep tree := by
  have hle : s.offset ≤ s.head.length := h.head_eq.symm ▸ h.offset_le
  have hpositive : 0 < s.chunkSize := h.chunkSize_eq.symm ▸ hsize
  have hnext : s.next tree = s.nextOfHead tree := by rw [Splice.next, hphase]
  rcases Nat.lt_or_eq_of_le hle with hleft | hend
  · set stop := min s.head.length (s.offset + s.chunkSize) with hstop
    set chunk := (s.head.drop s.offset).take (stop - s.offset) with hchunk
    have hlength : chunk.length = stop - s.offset := by
      rw [hchunk, List.length_take, List.length_drop]
      omega
    refine .chunk chunk ?_ (List.take_prefix _ _) (by omega) ?_
    · rw [← List.length_pos_iff]
      omega
    · have hbehind : s.offset + chunk.length = stop := by omega
      rw [hnext, Splice.nextOfHead, if_pos hleft, hbehind]
  · refine .leave hend ?_
    rw [hnext, Splice.nextOfHead, if_neg (by omega)]
    exact phase_nextOfBody_ne_head tree nofun

/-! ## The end of the head -/

theorem phase_afterCalls_ne_head_of_ne (tree : FileTree) (n : Nat) (h : s.phase ≠ .head) :
    (s.afterCalls tree n).phase ≠ .head := by
  induction n generalizing s with
  | zero => exact h
  | succ n ih => exact ih (phase_next_ne_head tree h)

theorem WithinHead.phase_afterCalls_ne_head (h : s.WithinHead size head) (hsize : 0 < size)
    (tree : FileTree) {n : Nat} (hn : head.length < s.offset + n) :
    (s.afterCalls tree n).phase ≠ .head := by
  induction n generalizing s with
  | zero => exact absurd h.offset_le (Nat.not_le.2 hn)
  | succ n ih =>
    by_cases hphase : s.phase = .head
    · rcases h.headStep hsize hphase tree with ⟨chunk, hne, -, -, hnext⟩ | ⟨-, hleft⟩
      · -- the chunk is not empty, so that less than before is left of the head
        have hpositive := List.length_pos_iff.2 hne
        refine ih (h.next tree) ?_
        rw [hnext]
        dsimp only
        omega
      · exact phase_afterCalls_ne_head_of_ne tree n hleft
    · exact phase_afterCalls_ne_head_of_ne tree (n + 1) hphase

/-- The head does not go on for ever: it is left after one call more than it has bytes. -/
theorem Reached.phase_afterCalls_ne_head (hreached : Reached options head s)
    (hsize : 0 < options.chunkSize) (tree : FileTree) :
    (s.afterCalls tree (head.length + 1)).phase ≠ .head :=
  hreached.withinHead.phase_afterCalls_ne_head hsize tree (by omega)

/-! ## Every state -/

/-- With any options that can be built and any head that a machine can hold, in every state: no more
of the head has been produced than there is, the sum for the next chunk is a word whenever it is
taken, and a call comes out in words as it is. In the head a call produces a chunk that is not empty
and moves behind it, or leaves the head at its end. -/
theorem next_inWords (hmade : options.Made) (hlength : head.length < 2 ^ 63)
    (hreached : Reached options head s) (tree : FileTree) :
    s.head = head ∧ s.chunkSize = options.chunkSize ∧ s.offset ≤ head.length ∧
      (s.offset < head.length → s.offset + s.chunkSize < 2 ^ 64) ∧
      s.checkedNext tree = .ok (s.next tree) ∧ (s.phase = .head → s.HeadStep tree) := by
  obtain ⟨hpositive, hword⟩ := hmade.chunkSize_bounds
  have hwithin := hreached.withinHead
  exact ⟨hwithin.head_eq, hwithin.chunkSize_eq, hwithin.offset_le,
    hwithin.sum_lt hword hlength, hwithin.checkedNext_eq hword hlength tree,
    fun hphase => hwithin.headStep hpositive hphase tree⟩

/-- The largest and the smallest chunk size that can be asked for. The first chunk of the largest
size is the whole head, and the sum behind it would leave its word; it is not taken. -/
theorem next_inWords_extremes :
    let head : Bytes := [0x49, 0x44, 0x33]
    let made (size : Nat) : SpliceOptions := ({} : SpliceOptions).withChunkSize size
    let begun (size : Nat) : Splice := ⟨(made size).chunkSize, .head, head, 0, .files [] [], []⟩
    let behind := ((begun (2 ^ 64 - 1)).next ⟨[]⟩).2
    (made (2 ^ 64 - 1)).Made ∧ (made 0).Made ∧ head.length < 2 ^ 63 ∧
      (begun (2 ^ 64 - 1)).checkedNext ⟨[]⟩ = .ok (some (.ok head), behind) ∧
      Checked.sum behind.offset behind.chunkSize = .error .overflow ∧
      behind.checkedNext ⟨[]⟩ = .ok (behind.next ⟨[]⟩) ∧
      ((begun 0).next ⟨[]⟩).1 = some (.ok [0x49]) ∧ (begun 0).HeadStep ⟨[]⟩ := by
  intro head made begun behind
  have hlargest : (made (2 ^ 64 - 1)).Made := .chunkSize .default (by decide)
  have hsmallest : (made 0).Made := .chunkSize .default (by decide)
  have hlength : head.length < 2 ^ 63 := by decide
  have hbegun : Reached (made (2 ^ 64 - 1)) head (begun (2 ^ 64 - 1)) := .begin _ _
  have hfirst := next_inWords hlargest hlength hbegun ⟨[]⟩
  have hsecond := next_inWords hlargest hlength (hbegun.next ⟨[]⟩) ⟨[]⟩
  have hsmall := next_inWords hsmallest hlength (.begin (.files [] []) []) ⟨[]⟩
  exact ⟨hlargest, hsmallest, hlength, hfirst.2.2.2.2.1, by decide, hsecond.2.2.2.2.1, by decide,
    hsmall.2.2.2.2.2 rfl⟩

end Splice

end ClipSplice

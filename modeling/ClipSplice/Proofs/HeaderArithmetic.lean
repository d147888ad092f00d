import ClipSplice.Proofs.CheckedArithmetic
import ClipSplice.Proofs.FrameSearch
import ClipSplice.Proofs.FrameStream
import Mathlib

/-!
# The arithmetic of headers

What a first frame tells about a file is computed from numbers that anyone can write into the file.
Here the same computation is done in machine words: the length of a frame, the average of a `Xing`
or `VBRI` block, and the mean of the frames that are sampled. All of it ends with the values of the
plain definitions (`AudioParams.checkedOfFrame_eq`), so no number on the way leaves its word, no
divisor is zero and no bytes are taken from behind the end. Which bitrate comes out is told by the
counts alone (`IsAverage`). An average needs no more than 32 bits, so that only a missing count, or
the lack of frames, leaves a file with the bitrate of its first frame
(`averageBitrate?_eq_none_iff`).
-/

namespace ClipSplice

open Checked

namespace FrameHeader

/-! ## The rates of a header -/

theorem Listed.bitrate_le {header : FrameHeader} (h : header.Listed) : header.bitrate ≤ 448 := by
  have hall : ∀ rate ∈ bitrates header.version header.layer, rate ≤ 448 := by
    cases header.version <;> cases header.layer <;> decide
  exact hall _ h.bitrate_mem

theorem Listed.sampleRate_bounds {header : FrameHeader} (h : header.Listed) :
    8000 ≤ header.sampleRate ∧ header.sampleRate ≤ 48000 := by
  have hall : ∀ rate ∈ sampleRates header.version, 8000 ≤ rate ∧ rate ≤ 48000 := by
    cases header.version <;> decide
  exact hall _ h.sampleRate_mem

theorem samplesPerFrame_bounds (header : FrameHeader) :
    384 ≤ header.samplesPerFrame ∧ header.samplesPerFrame ≤ 1152 := by
  unfold samplesPerFrame
  split <;> decide

/-- A frame lasts for eight milliseconds at least. -/
theorem Listed.duration_le {header : FrameHeader} (h : header.Listed) :
    8 * header.sampleRate ≤ header.samplesPerFrame * 1000 := by
  have hall : ∀ rate ∈ sampleRates header.version, 8 * rate ≤ header.samplesPerFrame * 1000 := by
    unfold samplesPerFrame
    cases header.layer <;> cases header.version <;> decide
  exact hall _ h.sampleRate_mem

/-! ## Places and lengths -/

/-- Where a `Xing` or `Info` block would stand, in words. -/
def checkedXingOffset (header : FrameHeader) : Checked Nat := do
  let behind ← sum size (if header.checksum then 2 else 0)
  sum behind header.sideInfoSize

theorem checkedXingOffset_eq (header : FrameHeader) :
    header.checkedXingOffset = .ok header.xingOffset := by
  have hoffset := header.xingOffset_le
  have hcounts : countsSize = 54 := rfl
  unfold xingOffset at hoffset ⊢
  rw [checkedXingOffset, bind_of_eq_ok (sum_eq_ok (by omega))]
  exact sum_eq_ok (by omega)

/-- The slots of a frame with a given factor, in words. -/
def checkedSlots (header : FrameHeader) (factor : Nat) : Checked Nat := do
  let bits ← product header.bitrate 1000
  let scaled ← product factor bits
  let slots ← quotient scaled header.sampleRate
  sum slots (if header.padded then 1 else 0)

/-- The length of a frame in words. -/
def checkedLength (header : FrameHeader) : Checked Nat :=
  match header.layer, header.version with
  | .I, _ => do
    let slots ← header.checkedSlots 12
    product slots 4
  | .II, _ => header.checkedSlots 144
  | .III, .one => header.checkedSlots 144
  | .III, _ => header.checkedSlots 72

theorem checkedSlots_eq {header : FrameHeader} (h : header.Listed) {factor : Nat}
    (hfactor : factor ≤ 144) :
    header.checkedSlots factor =
      .ok (factor * (header.bitrate * 1000) / header.sampleRate +
        if header.padded then 1 else 0) := by
  have hbitrate := h.bitrate_le
  have hrate := h.sampleRate_bounds.1
  have hscaled : factor * (header.bitrate * 1000) ≤ 144 * 448000 :=
    Nat.mul_le_mul hfactor (by omega)
  have hslots : factor * (header.bitrate * 1000) / header.sampleRate ≤ 144 * 448000 :=
    (Nat.div_le_self _ _).trans hscaled
  rw [checkedSlots, bind_of_eq_ok (product_eq_ok (by omega)),
    bind_of_eq_ok (product_eq_ok (by omega)), bind_of_eq_ok (quotient_eq_ok (by omega))]
  refine sum_eq_ok ?_
  split <;> omega

/-- The length of no frame leaves a word on the way. -/
theorem checkedLength_eq {header : FrameHeader} (h : header.Listed) :
    header.checkedLength = .ok header.frameLength := by
  have hlength := h.frameLength_bounds.2
  unfold checkedLength
  unfold frameLength at hlength ⊢
  cases hlayer : header.layer with
  | I =>
    simp only [hlayer] at hlength ⊢
    rw [bind_of_eq_ok (checkedSlots_eq h (by decide : 12 ≤ 144))]
    exact product_eq_ok (Nat.lt_of_le_of_lt hlength (by decide))
  | II => exact checkedSlots_eq h (Nat.le_refl 144)
  | III =>
    cases header.version with
    | one => exact checkedSlots_eq h (Nat.le_refl 144)
    | two | twoFive => exact checkedSlots_eq h (by decide : 72 ≤ 144)

end FrameHeader

/-! ## Averages -/

/-- The average bitrate of some frames with so many bytes altogether, in kbit/s, rounded down. -/
def exactAverage (header : FrameHeader) (frames size : Nat) : Nat :=
  size * 8 * header.sampleRate / (frames * header.samplesPerFrame * 1000)

/-- The average bitrate in words; none when a count is missing, when there are no frames or when
the average exceeds 32 bits. -/
def checkedAverage? (header : FrameHeader) : (frames size : Option Nat) → Checked (Option Nat)
  | some frames, some size =>
    if frames = 0 then .ok none
    else do
      let samples ← product frames header.samplesPerFrame
      let bits ← product size 8
      let scaled ← product bits header.sampleRate
      let divisor ← product samples 1000
      let average ← quotient scaled divisor
      .ok (if average < 2 ^ 32 then some average else none)
  | _, _ => .ok none

theorem averageBitrate?_some (header : FrameHeader) (frames size : Nat) :
    averageBitrate? header (some frames) (some size) =
      if frames ≠ 0 ∧ exactAverage header frames size < 2 ^ 32 then
        some (exactAverage header frames size)
      else none := by
  by_cases hframes : frames = 0
  · simp [averageBitrate?, hframes]
  · simp [averageBitrate?, hframes, exactAverage]

/-- Counts of 32 bits are averaged without leaving a word. -/
theorem checkedAverage?_eq {header : FrameHeader} (h : header.Listed) {frames size : Option Nat}
    (hframes : ∀ n ∈ frames, n < 2 ^ 32) (hsize : ∀ n ∈ size, n < 2 ^ 32) :
    checkedAverage? header frames size = .ok (averageBitrate? header frames size) := by
  cases frames with
  | none => rfl
  | some frames =>
    cases size with
    | none => rfl
    | some size =>
      have hframes := hframes frames rfl
      have hsize := hsize size rfl
      have hrate := h.sampleRate_bounds.2
      have hspan := header.samplesPerFrame_bounds
      have hsamples : frames * header.samplesPerFrame ≤ 2 ^ 32 * 1152 :=
        Nat.mul_le_mul (by omega) hspan.2
      have hscaled : size * 8 * header.sampleRate ≤ 2 ^ 35 * 48000 :=
        Nat.mul_le_mul (by omega) hrate
      rw [averageBitrate?_some, checkedAverage?]
      by_cases hnone : frames = 0
      · rw [if_pos hnone, if_neg (fun h => h.1 hnone)]
      · have hpositive : 0 < frames * header.samplesPerFrame :=
          Nat.mul_pos (by omega) (by omega)
        rw [if_neg hnone, bind_of_eq_ok (product_eq_ok (by omega)),
          bind_of_eq_ok (product_eq_ok (by omega)), bind_of_eq_ok (product_eq_ok (by omega)),
          bind_of_eq_ok (product_eq_ok (by omega)), bind_of_eq_ok (quotient_eq_ok (by omega))]
        simp only [exactAverage, hnone, ne_eq, not_false_eq_true, true_and]

/-- Some frames are not so short that the average of 32 bits of bytes exceeds 32 bits. -/
theorem FrameHeader.Listed.average_lt {header : FrameHeader} (h : header.Listed)
    {frames size : Nat} (hframes : frames ≠ 0) (hsize : size < 2 ^ 32) :
    exactAverage header frames size < 2 ^ 32 := by
  have hlasts : 8 * header.sampleRate ≤ frames * header.samplesPerFrame * 1000 := by
    calc 8 * header.sampleRate ≤ header.samplesPerFrame * 1000 := h.duration_le
      _ ≤ frames * (header.samplesPerFrame * 1000) := Nat.le_mul_of_pos_left _ (by omega)
      _ = frames * header.samplesPerFrame * 1000 := (Nat.mul_assoc ..).symm
  refine Nat.lt_of_le_of_lt ?_ hsize
  refine Nat.div_le_of_le_mul ?_
  calc size * 8 * header.sampleRate = size * (8 * header.sampleRate) := Nat.mul_assoc ..
    _ ≤ size * (frames * header.samplesPerFrame * 1000) := Nat.mul_le_mul_left _ hlasts
    _ = frames * header.samplesPerFrame * 1000 * size := Nat.mul_comm ..

/-- There is no average only where a count is missing or there are no frames: one that can be
computed never needs more than 32 bits. -/
theorem averageBitrate?_eq_none_iff {header : FrameHeader} (h : header.Listed)
    {frames size : Option Nat} (hsize : ∀ n ∈ size, n < 2 ^ 32) :
    averageBitrate? header frames size = none ↔
      frames = none ∨ size = none ∨ frames = some 0 := by
  cases frames with
  | none => exact iff_of_true rfl (.inl rfl)
  | some frames =>
    cases size with
    | none => exact iff_of_true rfl (.inr (.inl rfl))
    | some size =>
      rw [averageBitrate?_some]
      by_cases hnone : frames = 0
      · rw [if_neg (fun h => h.1 hnone), hnone]
        exact iff_of_true rfl (.inr (.inr rfl))
      · rw [if_pos ⟨hnone, h.average_lt hnone (hsize size rfl)⟩]
        simp [hnone]

/-- A bitrate is the average of the counts of frames and bytes that are there, provided that there
are frames and that the average has at most 32 bits; otherwise it is the one of the header. -/
structure IsAverage (header : FrameHeader) (counts : (frames size : Nat) → Prop)
    (bitrate : Nat) : Prop where
  average : ∀ {frames size}, counts frames size → frames ≠ 0 →
    exactAverage header frames size < 2 ^ 32 → bitrate = exactAverage header frames size
  fallback : (¬ ∃ frames size, counts frames size ∧ frames ≠ 0 ∧
    exactAverage header frames size < 2 ^ 32) → bitrate = header.bitrate

theorem isAverage_getD (header : FrameHeader) {counts : (frames size : Nat) → Prop}
    {frames? size? : Option Nat}
    (hcounts : ∀ frames size, counts frames size ↔ frames? = some frames ∧ size? = some size) :
    IsAverage header counts ((averageBitrate? header frames? size?).getD header.bitrate) where
  average := by
    intro frames size hthere hframes haverage
    obtain ⟨rfl, rfl⟩ := (hcounts frames size).1 hthere
    rw [averageBitrate?_some, if_pos ⟨hframes, haverage⟩, Option.getD_some]
  fallback := by
    intro hmissing
    cases frames? with
    | none => rfl
    | some frames =>
      cases size? with
      | none => rfl
      | some size =>
        have hthere := (hcounts frames size).2 ⟨rfl, rfl⟩
        rw [averageBitrate?_some, if_neg (fun h => hmissing ⟨frames, size, hthere, h⟩),
          Option.getD_none]

/-! ## Counts -/

/-- The counts of a block that stands at an offset, in words: its flags stand behind its four
letters, and each count stands behind the one in front of it if that one is there. -/
def checkedCounts (frame : Bytes) (offset : Nat) : Checked (Option Nat × Option Nat) := do
  let place ← sum offset 4
  let flags ← Checked.word? frame place
  let field ← sum offset 8
  let frames ←
    if (flags.getD 0).testBit 0 then Checked.word? frame field else .ok none
  let behind ← if (flags.getD 0).testBit 0 then sum field 4 else .ok field
  let size ← if (flags.getD 0).testBit 1 then Checked.word? frame behind else .ok none
  .ok (frames, size)

theorem testBit_zero_iff (n : Nat) : n.testBit 0 = true ↔ n % 2 = 1 := by
  rw [Nat.testBit_zero, decide_eq_true_iff]

theorem testBit_one_iff (n : Nat) : n.testBit 1 = true ↔ n / 2 % 2 = 1 := by
  rw [Nat.testBit_succ, testBit_zero_iff]

theorem checkedCounts_eq (frame : Bytes) {offset : Nat} (h : offset + 16 < 2 ^ 64) :
    checkedCounts frame offset = .ok (flaggedCounts frame (offset + 4)) := by
  have hfield : offset + 8 = offset + 4 + 4 := rfl
  rw [checkedCounts, bind_of_eq_ok (sum_eq_ok (by omega)),
    bind_of_eq_ok (Checked.word?_eq (by omega)), bind_of_eq_ok (sum_eq_ok (by omega)), hfield]
  simp only [flaggedCounts, testBit_zero_iff, testBit_one_iff]
  generalize (word? frame (offset + 4)).getD 0 = flags
  -- the second count stands eight bytes behind the flags only if the first one is there
  by_cases hframes : flags % 2 = 1 <;> by_cases hsize : flags / 2 % 2 = 1
  · simp only [hframes, hsize, if_true]
    rw [bind_of_eq_ok (Checked.word?_eq (by omega)), bind_of_eq_ok (sum_eq_ok (by omega)),
      bind_of_eq_ok (Checked.word?_eq (by omega))]
  · simp only [hframes, hsize, if_true, if_false]
    rw [bind_of_eq_ok (Checked.word?_eq (by omega)), bind_of_eq_ok (sum_eq_ok (by omega))]
    rfl
  · simp only [hframes, hsize, if_true, if_false]
    rw [bind_of_eq_ok rfl, bind_of_eq_ok rfl, bind_of_eq_ok (Checked.word?_eq (by omega))]
  · simp only [hframes, hsize, if_false]
    rfl

/-- A `Xing` block has both counts, so many frames and so many bytes: its flags announce them, and
both are there. -/
structure XingCounts (header : FrameHeader) (frame : Bytes) (frames size : Nat) : Prop where
  flagged : ∃ flags, word? frame (header.xingOffset + 4) = some flags ∧
    flags.testBit 0 = true ∧ flags.testBit 1 = true
  frames_eq : word? frame (header.xingOffset + 8) = some frames
  size_eq : word? frame (header.xingOffset + 12) = some size

/-- A `VBRI` block has both counts: it is not cut off in front of their ends. -/
structure VbriCounts (frame : Bytes) (frames size : Nat) : Prop where
  size_eq : word? frame (vbriOffset + 10) = some size
  frames_eq : word? frame (vbriOffset + 14) = some frames

theorem xingCounts_iff (header : FrameHeader) (frame : Bytes) (frames size : Nat) :
    XingCounts header frame frames size ↔
      (flaggedCounts frame (header.xingOffset + 4)).1 = some frames ∧
        (flaggedCounts frame (header.xingOffset + 4)).2 = some size := by
  have hfield : header.xingOffset + 4 + 4 = header.xingOffset + 8 := rfl
  have hnext : header.xingOffset + 8 + 4 = header.xingOffset + 12 := rfl
  simp only [flaggedCounts, hfield, hnext]
  constructor
  · rintro ⟨⟨flags, hflags, hfirst, hsecond⟩, hframes, hsize⟩
    rw [testBit_zero_iff] at hfirst
    rw [testBit_one_iff] at hsecond
    simp only [hflags, Option.getD_some, hfirst, hsecond, if_true]
    exact ⟨hframes, hsize⟩
  · intro hcounts
    cases hflags : word? frame (header.xingOffset + 4) with
    | none => simp [hflags] at hcounts
    | some flags =>
      simp only [hflags, Option.getD_some] at hcounts
      by_cases hfirst : flags % 2 = 1
      · simp only [hfirst, if_true] at hcounts
        by_cases hsecond : flags / 2 % 2 = 1
        · simp only [hsecond, if_true] at hcounts
          exact ⟨⟨flags, hflags, (testBit_zero_iff _).2 hfirst, (testBit_one_iff _).2 hsecond⟩,
            hcounts.1, hcounts.2⟩
        · simp [hsecond] at hcounts
      · simp [hfirst] at hcounts

/-! ## Sampling -/

/-- The bitrates of up to `count` frames that follow each other from a place on, in words. -/
def checkedBitrates (bytes : Bytes) : (count place : Nat) → Checked (List Nat)
  | 0, _ => .ok []
  | count + 1, place =>
    match FrameHeader.ofBytes? (bytes.drop place) with
    | none => .ok []
    | some header => do
      let length ← header.checkedLength
      let behind ← sum place length
      let rates ← checkedBitrates bytes count behind
      .ok (header.bitrate :: rates)

/-- The mean of some numbers in words, rounded down. -/
def checkedMean (rates : List Nat) : Checked Nat := do
  let total ← rates.foldlM sum 0
  quotient total rates.length

/-- A place where a header stands lies in the bytes, and so the place behind its frame lies no
further than the longest frame behind them. -/
theorem sum_place_eq_ok {bytes : Bytes} (hlength : bytes.length < 2 ^ 63) {place : Nat}
    {header : FrameHeader} (h : FrameHeader.ofBytes? (bytes.drop place) = some header) :
    sum place header.frameLength = .ok (place + header.frameLength) := by
  have hsize := FrameHeader.size_le_of_ofBytes? h
  have hframe := (FrameHeader.listed_of_ofBytes? h).frameLength_bounds.2
  have hfour : FrameHeader.size = 4 := rfl
  have hlongest : FrameHeader.longestFrame = 2881 := rfl
  rw [List.length_drop] at hsize
  exact sum_eq_ok (by omega)

/-- No walk over the frames of some bytes leaves a word. -/
theorem checkedBitrates_eq {bytes : Bytes} (hlength : bytes.length < 2 ^ 63) (count place : Nat) :
    checkedBitrates bytes count place = .ok (consecutiveBitrates count (bytes.drop place)) := by
  induction count generalizing place with
  | zero => rfl
  | succ count ih =>
    rw [checkedBitrates, consecutiveBitrates]
    cases hheader : FrameHeader.ofBytes? (bytes.drop place) with
    | none => rfl
    | some header =>
      have hlisted := FrameHeader.listed_of_ofBytes? hheader
      have hbehind := sum_place_eq_ok hlength hheader
      simp only
      rw [bind_of_eq_ok (FrameHeader.checkedLength_eq hlisted), bind_of_eq_ok hbehind,
        bind_of_eq_ok (ih _), List.drop_drop]

theorem foldlM_sum_eq (rates : List Nat) {start : Nat} (h : start + rates.sum < 2 ^ 64) :
    rates.foldlM sum start = .ok (rates.foldl (· + ·) start) := by
  induction rates generalizing start with
  | nil => rfl
  | cons rate rates ih =>
    rw [List.sum_cons] at h
    rw [List.foldlM_cons, bind_of_eq_ok (sum_eq_ok (by omega)), List.foldl_cons]
    exact ih (by omega)

theorem checkedMean_eq {rates : List Nat} (hne : rates ≠ []) (h : rates.sum < 2 ^ 64) :
    checkedMean rates = .ok (rates.foldl (· + ·) 0 / rates.length) := by
  rw [checkedMean, bind_of_eq_ok (foldlM_sum_eq rates (by omega))]
  exact quotient_eq_ok (mt List.length_eq_zero_iff.1 hne)

/-- What is sampled is no more than so many of the highest bitrates. -/
theorem sum_consecutiveBitrates_le (count : Nat) (bytes : Bytes) :
    (consecutiveBitrates count bytes).sum ≤ count * 448 := by
  induction count generalizing bytes with
  | zero => exact Nat.le_of_eq (Nat.zero_mul 448).symm
  | succ count ih =>
    rw [consecutiveBitrates]
    cases hheader : FrameHeader.ofBytes? bytes with
    | none => exact Nat.zero_le _
    | some header =>
      have hrate := (FrameHeader.listed_of_ofBytes? hheader).bitrate_le
      have hmore := ih (bytes.drop header.frameLength)
      simp only [List.sum_cons]
      omega

/-! ## Parameters -/

namespace AudioParams

/-- The parameters of a file with a header, where its bitrate does not vary. -/
def constant (header : FrameHeader) : AudioParams :=
  { vbr := false
    bitrate := header.bitrate
    sampleRate := header.sampleRate
    mode := header.mode }

/-- The parameters of a file with a header and counts, in words. -/
def checkedVarying (header : FrameHeader) (frames size : Option Nat) : Checked AudioParams := do
  let average ← checkedAverage? header frames size
  .ok { constant header with vbr := true, bitrate := average.getD header.bitrate }

/-- The parameters of a file whose first frame has a `Xing` or `Info` block at an offset, in words.
Only in a `Xing` block do the counts matter. -/
def checkedBlock (header : FrameHeader) (frame : Bytes) (offset : Nat) (varies : Bool) :
    Checked AudioParams := do
  let (frames, size) ← checkedCounts frame offset
  if varies then checkedVarying header frames size else .ok (constant header)

/-- The parameters of a file whose first frame has a `VBRI` block, in words. -/
def checkedVbri (header : FrameHeader) (frame : Bytes) : Checked AudioParams := do
  let place ← sum vbriOffset 10
  let size ← Checked.word? frame place
  let place ← sum vbriOffset 14
  let frames ← Checked.word? frame place
  checkedVarying header frames size

/-- The parameters of a file by the frames that follow each other from a position on, in words. -/
def checkedSample (header : FrameHeader) (bytes : Bytes) (position : Nat) :
    Checked AudioParams := do
  let length ← header.checkedLength
  let behind ← sum position length
  let rates ← checkedBitrates bytes (sampleFrames - 1) behind
  let seen := header.bitrate :: rates
  if seen.any (· ≠ header.bitrate) then
    let mean ← checkedMean seen
    .ok { constant header with
      vbr := true, bitrate := if mean < 2 ^ 32 then mean else header.bitrate }
  else .ok (constant header)

/-- The parameters that the frame at a position with its header and what follows it show, in
words. -/
def checkedOfFrame (bytes : Bytes) (position : Nat) (header : FrameHeader) :
    Checked AudioParams := do
  let frame ← part bytes position bytes.length
  let offset ← header.checkedXingOffset
  let behind ← sum offset 4
  let block := part? frame offset behind
  if block = some (fourLetters 'X' 'i' 'n' 'g') then checkedBlock header frame offset true
  else if block = some (fourLetters 'I' 'n' 'f' 'o') then checkedBlock header frame offset false
  else
    let behind ← sum vbriOffset 4
    if part? frame vbriOffset behind = some (fourLetters 'V' 'B' 'R' 'I') then
      checkedVbri header frame
    else checkedSample header bytes position

theorem checkedVarying_eq {header : FrameHeader} (h : header.Listed) {frames size : Option Nat}
    (hframes : ∀ n ∈ frames, n < 2 ^ 32) (hsize : ∀ n ∈ size, n < 2 ^ 32) :
    checkedVarying header frames size =
      .ok ⟨true, (averageBitrate? header frames size).getD header.bitrate, header.sampleRate,
        header.mode⟩ := by
  rw [checkedVarying, bind_of_eq_ok (checkedAverage?_eq h hframes hsize)]
  rfl

theorem flaggedCounts_lt (frame : Bytes) (offset : Nat) :
    (∀ n ∈ (flaggedCounts frame offset).1, n < 2 ^ 32) ∧
      ∀ n ∈ (flaggedCounts frame offset).2, n < 2 ^ 32 := by
  unfold flaggedCounts
  constructor
  · intro n hn
    simp only at hn
    split at hn
    · exact word?_lt hn
    · cases hn
  · intro n hn
    simp only at hn
    split at hn <;> simp only [Option.mem_def, Option.ite_none_right_eq_some] at hn <;>
      exact word?_lt hn.2

theorem checkedVbri_eq {header : FrameHeader} (h : header.Listed) (frame : Bytes) :
    checkedVbri header frame =
      .ok ⟨true, (averageBitrate? header (word? frame (vbriOffset + 14))
        (word? frame (vbriOffset + 10))).getD header.bitrate, header.sampleRate, header.mode⟩ := by
  have hvbri : vbriOffset = 36 := rfl
  rw [checkedVbri, bind_of_eq_ok (sum_eq_ok (by omega)),
    bind_of_eq_ok (Checked.word?_eq (by omega)), bind_of_eq_ok (sum_eq_ok (by omega)),
    bind_of_eq_ok (Checked.word?_eq (by omega))]
  exact checkedVarying_eq h (fun _ => word?_lt) (fun _ => word?_lt)

/-- The first frame is sampled, and what follows it. -/
theorem consecutiveBitrates_eq_cons {bytes : Bytes} {header : FrameHeader}
    (h : FrameHeader.ofBytes? bytes = some header) :
    consecutiveBitrates sampleFrames bytes =
      header.bitrate ::
        consecutiveBitrates (sampleFrames - 1) (bytes.drop header.frameLength) := by
  rw [sampleFrames, consecutiveBitrates, h]

theorem checkedSample_eq {bytes : Bytes} (hlength : bytes.length < 2 ^ 63) {position : Nat}
    {header : FrameHeader} (hheader : FrameHeader.ofBytes? (bytes.drop position) = some header) :
    let seen := consecutiveBitrates sampleFrames (bytes.drop position)
    checkedSample header bytes position =
      .ok (if seen.all (· = header.bitrate) then constant header
        else ⟨true, seen.foldl (· + ·) 0 / seen.length, header.sampleRate, header.mode⟩) := by
  intro seen
  have hlisted := FrameHeader.listed_of_ofBytes? hheader
  have hseen : header.bitrate ::
      consecutiveBitrates (sampleFrames - 1) (bytes.drop (position + header.frameLength)) =
        seen := by
    rw [← List.drop_drop]
    exact (consecutiveBitrates_eq_cons hheader).symm
  have hsum : seen.sum < 2 ^ 32 :=
    Nat.lt_of_le_of_lt (sum_consecutiveBitrates_le sampleFrames _) (by decide)
  have hmean : seen.foldl (· + ·) 0 / seen.length < 2 ^ 32 := by
    rw [← List.sum_eq_foldl]
    exact Nat.lt_of_le_of_lt (Nat.div_le_self _ _) hsum
  have hne : seen ≠ [] := hseen ▸ List.cons_ne_nil _ _
  rw [checkedSample, bind_of_eq_ok (FrameHeader.checkedLength_eq hlisted),
    bind_of_eq_ok (sum_place_eq_ok hlength hheader),
    bind_of_eq_ok (checkedBitrates_eq hlength _ _)]
  simp only [hseen, ne_eq, decide_not, ← List.not_all_eq_any_not, Bool.not_eq_true']
  cases seen.all (· = header.bitrate) with
  | true => rfl
  | false =>
    rw [if_pos rfl, bind_of_eq_ok (checkedMean_eq hne (by omega)), if_pos hmean]
    rfl

/-- What a frame with a header tells comes out in words as it does in numbers without a limit. -/
theorem checkedOfFrame_eq {bytes : Bytes} (hlength : bytes.length < 2 ^ 63) {position : Nat}
    {header : FrameHeader} (hheader : FrameHeader.ofBytes? (bytes.drop position) = some header) :
    checkedOfFrame bytes position header = .ok (ofFrame header (bytes.drop position)) := by
  have hlisted := FrameHeader.listed_of_ofBytes? hheader
  have hoffset := header.xingOffset_le
  have hcounts : countsSize = 54 := rfl
  have hvbri : vbriOffset = 36 := rfl
  have hposition : position ≤ bytes.length := by
    have hsize := FrameHeader.size_le_of_ofBytes? hheader
    have hfour : FrameHeader.size = 4 := rfl
    rw [List.length_drop] at hsize
    omega
  have hblock := checkedCounts_eq (bytes.drop position)
    (by omega : header.xingOffset + 16 < 2 ^ 64)
  rw [checkedOfFrame, bind_of_eq_ok (part_length hposition),
    bind_of_eq_ok header.checkedXingOffset_eq, bind_of_eq_ok (sum_eq_ok (by omega)),
    bind_of_eq_ok (sum_eq_ok (by omega))]
  simp only [part?_eq_letters_iff, ofFrame]
  -- the blocks are looked for in the same order on both sides
  split_ifs with hxing hinfo hvbri hall
  · have hlt := flaggedCounts_lt (bytes.drop position) (header.xingOffset + 4)
    rw [checkedBlock, bind_of_eq_ok hblock]
    exact checkedVarying_eq hlisted hlt.1 hlt.2
  · rw [checkedBlock, bind_of_eq_ok hblock]
    rfl
  · exact checkedVbri_eq hlisted _
  · rw [checkedSample_eq hlength hheader, if_pos hall]
    rfl
  · rw [checkedSample_eq hlength hheader, if_neg hall]

/-! ## The bitrate of a file -/

variable {header : FrameHeader} {frame : Bytes}

theorem ofFrame_of_xing
    (h : fourBytes frame header.xingOffset = fourLetters 'X' 'i' 'n' 'g') :
    (ofFrame header frame).vbr = true ∧
      IsAverage header (XingCounts header frame) (ofFrame header frame).bitrate := by
  have haverage := isAverage_getD header (xingCounts_iff header frame)
  simp only [ofFrame, h, if_true]
  exact ⟨trivial, haverage⟩

theorem ofFrame_of_info
    (h : fourBytes frame header.xingOffset = fourLetters 'I' 'n' 'f' 'o') :
    (ofFrame header frame).vbr = false ∧ (ofFrame header frame).bitrate = header.bitrate := by
  have hother : fourLetters 'I' 'n' 'f' 'o' ≠ fourLetters 'X' 'i' 'n' 'g' := by decide
  simp only [ofFrame, h, hother, if_true, if_false]
  exact ⟨trivial, trivial⟩

theorem ofFrame_of_vbri
    (hxing : fourBytes frame header.xingOffset ≠ fourLetters 'X' 'i' 'n' 'g')
    (hinfo : fourBytes frame header.xingOffset ≠ fourLetters 'I' 'n' 'f' 'o')
    (h : fourBytes frame vbriOffset = fourLetters 'V' 'B' 'R' 'I') :
    (ofFrame header frame).vbr = true ∧
      IsAverage header (VbriCounts frame) (ofFrame header frame).bitrate := by
  have hcounts : ∀ frames size, VbriCounts frame frames size ↔
      word? frame (vbriOffset + 14) = some frames ∧ word? frame (vbriOffset + 10) = some size :=
    fun _ _ => ⟨fun h => ⟨h.frames_eq, h.size_eq⟩, fun h => ⟨h.2, h.1⟩⟩
  have haverage := isAverage_getD header hcounts
  simp only [ofFrame, hxing, hinfo, h, if_true, if_false]
  exact ⟨trivial, haverage⟩

/-- Whatever the first frame of a file holds, its parameters come out in words as they are: nothing
on the way leaves its word, is divided by zero or lies behind the end of the bytes. The bitrate of a
file with a `Xing` or `VBRI` block is the average of its counts, and the one of the first frame
where these do not give one; with an `Info` block it is always the one of the first frame. -/
theorem ofBytes?_inWords (file : Bytes) {position : Nat} {header : FrameHeader}
    (hfirst : firstFrame? ((file.drop (Id3v2.read file).length).take probeSize) =
      some (position, header)) :
    let probe := (file.drop (Id3v2.read file).length).take probeSize
    let frame := probe.drop position
    let params := ofFrame header frame
    ofBytes? file = some params ∧ checkedOfFrame probe position header = .ok params ∧
      (fourBytes frame header.xingOffset = fourLetters 'X' 'i' 'n' 'g' →
        params.vbr = true ∧ IsAverage header (XingCounts header frame) params.bitrate) ∧
      (fourBytes frame header.xingOffset = fourLetters 'I' 'n' 'f' 'o' →
        params.vbr = false ∧ params.bitrate = header.bitrate) ∧
      (fourBytes frame header.xingOffset ∉
          [fourLetters 'X' 'i' 'n' 'g', fourLetters 'I' 'n' 'f' 'o'] →
        fourBytes frame vbriOffset = fourLetters 'V' 'B' 'R' 'I' →
        params.vbr = true ∧ IsAverage header (VbriCounts frame) params.bitrate) := by
  intro probe frame params
  have hheader : FrameHeader.ofBytes? frame = some header :=
    (firstFrameFrom?_eq_some_iff.1 hfirst).1.starts
  have hlength : probe.length < 2 ^ 63 :=
    Nat.lt_of_le_of_lt (List.length_take_le _ _) (by decide)
  refine ⟨?_, checkedOfFrame_eq hlength hheader, ofFrame_of_xing, ofFrame_of_info, ?_⟩
  · rw [ofBytes?, hfirst]
    rfl
  · intro hblock hvbri
    simp only [List.mem_cons, List.not_mem_nil, or_false, not_or] at hblock
    exact ofFrame_of_vbri hblock.1 hblock.2 hvbri

/-- A frame of layer I with the smallest count of frames and the largest one of bytes: the average
is as large as 32 bits allow. Cut off inside the second count it has the bitrate of its header. -/
theorem ofBytes?_inWords_largest :
    let header : FrameHeader := ⟨.one, .I, false, 64, 48000, false, .stereo⟩
    let whole : Bytes := [0xff, 0xff, 0x24, 0] ++ List.replicate 32 0 ++
      [0x58, 0x69, 0x6e, 0x67, 0, 0, 0, 3, 0, 0, 0, 1, 0xff, 0xff, 0xff, 0xff] ++
      List.replicate 12 0
    firstFrame? whole = some (0, header) ∧ firstFrame? (whole.take 50) = some (0, header) ∧
      (ofBytes? whole).map AudioParams.bitrate = some (2 ^ 32 - 1) ∧
      (ofBytes? (whole.take 50)).map AudioParams.bitrate = some 64 ∧
      (checkedOfFrame whole 0 header).map AudioParams.bitrate = .ok (2 ^ 32 - 1) := by
  intro header whole
  have hwhole : (whole.drop (Id3v2.read whole).length).take probeSize = whole := by decide +kernel
  have hcut : ((whole.take 50).drop (Id3v2.read (whole.take 50)).length).take probeSize =
      whole.take 50 := by decide +kernel
  have hfirst : firstFrame? whole = some (0, header) := by decide +kernel
  have hfirstCut : firstFrame? (whole.take 50) = some (0, header) := by decide +kernel
  have htold := ofBytes?_inWords whole (hwhole.symm ▸ hfirst)
  have htoldCut := ofBytes?_inWords (whole.take 50) (hcut.symm ▸ hfirstCut)
  simp only [hwhole, hcut, List.drop_zero] at htold htoldCut
  obtain ⟨hparams, hwords, hxing, -⟩ := htold
  obtain ⟨hparamsCut, -, hxingCut, -⟩ := htoldCut
  have hcounts : XingCounts header whole 1 4294967295 :=
    ⟨⟨3, by decide +kernel, by decide, by decide⟩, by decide +kernel, by decide +kernel⟩
  have hbitrate := (hxing (by decide +kernel)).2.average hcounts (by decide) (by decide +kernel)
  have hmissing : word? (whole.take 50) (header.xingOffset + 12) = none := by decide +kernel
  have hbitrateCut := (hxingCut (by decide +kernel)).2.fallback fun ⟨_, _, hcounts, _⟩ =>
    Option.some_ne_none _ (hcounts.size_eq.symm.trans hmissing)
  refine ⟨hfirst, hfirstCut, ?_, ?_, ?_⟩
  · rw [hparams, Option.map_some, hbitrate]
    decide +kernel
  · rw [hparamsCut, Option.map_some, hbitrateCut]
  · rw [hwords, Except.map, hbitrate]
    decide +kernel

end AudioParams

end ClipSplice

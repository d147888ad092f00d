import ClipSplice.Audio.Tag

/-!
# Encoding parameters

Files can be spliced when they agree on how they are encoded: `AudioParams.ofBytes?` finds out from
the first frames of a file. A `Xing` or `VBRI` block in the first frame marks a variable bitrate and
may carry the number of frames and bytes, from which the average bitrate follows; an `Info` block
marks a constant one. Without such a block the bitrates of the first frames are compared.
-/

namespace ClipSplice

/-- The parameters on which spliced files have to agree. -/
structure AudioParams where
  /-- The bitrate varies. -/
  vbr : Bool
  /-- In kbit/s; the average where it varies and the average is known. -/
  bitrate : Nat
  /-- In Hz. -/
  sampleRate : Nat
  mode : ChannelMode
deriving Repr, DecidableEq

/-! ## The first frame -/

/-- Whether what follows a header confirms it: the end of the data, an ID3v1 tag or another
header after the length of its frame. -/
def confirmed (header : FrameHeader) (bytes : Bytes) : Bool :=
  let next := bytes.drop header.frameLength
  next.isEmpty || Id3v1.marker.isPrefixOf next || (FrameHeader.ofBytes? next).isSome

/-- Where the first confirmed header at or after `start` is, and that header. Behind a header that
nothing confirms the search goes on one byte further. -/
def firstFrameFrom? (bytes : Bytes) (start : Nat) : Option (Nat × FrameHeader) :=
  match _h : findSync? bytes start with
  | none => none
  | some position =>
    let frame := bytes.drop position
    match (FrameHeader.ofBytes? frame).filter (confirmed · frame) with
    | some header => some (position, header)
    | none => firstFrameFrom? bytes (position + 1)
termination_by bytes.length - start
decreasing_by
  have := findSync?_bounds _h
  omega

theorem firstFrameFrom?_of_some {bytes : Bytes} {start position : Nat}
    (h : findSync? bytes start = some position) :
    firstFrameFrom? bytes start =
      match (FrameHeader.ofBytes? (bytes.drop position)).filter
          (confirmed · (bytes.drop position)) with
      | some header => some (position, header)
      | none => firstFrameFrom? bytes (position + 1) := by
  rw [firstFrameFrom?]
  split
  · rename_i hnone
    cases h.symm.trans hnone
  · rename_i hsome
    cases h.symm.trans hsome
    rfl

/-- How far into some bytes the first confirmed header starts, and that header. -/
def firstFrame? (bytes : Bytes) : Option (Nat × FrameHeader) := firstFrameFrom? bytes 0

/-! ## Counts in the first frame -/

/-- The number of 32 bits, most significant byte first, at an offset. -/
def word? (bytes : Bytes) (offset : Nat) : Option Nat :=
  match bytes.drop offset with
  | a :: b :: c :: d :: _ =>
    some (((a.toNat * 256 + b.toNat) * 256 + c.toNat) * 256 + d.toNat)
  | _ => none

/-- The average bitrate of so many frames with so many bytes altogether; none when a count is
missing, when there are no frames or when the average exceeds 32 bits. -/
def averageBitrate? (header : FrameHeader) (frames bytes : Option Nat) : Option Nat := do
  let frames ← frames
  let bytes ← bytes
  if frames = 0 then none
  let average := bytes * 8 * header.sampleRate / (frames * header.samplesPerFrame * 1000)
  if average < Nat.pow 2 32 then some average else none

/-- Four letters as bytes. -/
def fourLetters (a b c d : Char) : Bytes := [a, b, c, d].map fun l => l.toNat.toUInt8

/-- The four bytes at an offset, fewer at the end. -/
def fourBytes (bytes : Bytes) (offset : Nat) : Bytes := (bytes.drop offset).take 4

/-- The counts of frames and bytes in a block whose flags stand at `offset`; the first two flags
say which of them follow. -/
def flaggedCounts (frame : Bytes) (offset : Nat) : Option Nat × Option Nat :=
  let flags := (word? frame offset).getD 0
  let field := offset + 4
  if flags % 2 = 1 then
    (word? frame field, if flags / 2 % 2 = 1 then word? frame (field + 4) else none)
  else (none, if flags / 2 % 2 = 1 then word? frame field else none)

/-- Where a `VBRI` block stands in a frame. -/
def vbriOffset : Nat := FrameHeader.size + 32

/-! ## Sampling frames -/

/-- The most frames that are compared. -/
def sampleFrames : Nat := 32

/-- The bitrates of up to `count` frames that follow each other without a gap. -/
def consecutiveBitrates : (count : Nat) → Bytes → List Nat
  | 0, _ => []
  | count + 1, bytes =>
    match FrameHeader.ofBytes? bytes with
    | none => []
    | some header =>
      header.bitrate :: consecutiveBitrates count (bytes.drop header.frameLength)

namespace AudioParams

/-- The parameters that a frame with its header and what follows it show. -/
def ofFrame (header : FrameHeader) (bytes : Bytes) : AudioParams :=
  let plain : AudioParams :=
    { vbr := false
      bitrate := header.bitrate
      sampleRate := header.sampleRate
      mode := header.mode }
  let varying (frames size : Option Nat) : AudioParams :=
    { plain with
      vbr := true
      bitrate := (averageBitrate? header frames size).getD header.bitrate }
  let block := fourBytes bytes header.xingOffset
  if block = fourLetters 'X' 'i' 'n' 'g' then
    let (frames, size) := flaggedCounts bytes (header.xingOffset + 4)
    varying frames size
  else if block = fourLetters 'I' 'n' 'f' 'o' then plain
  else if fourBytes bytes vbriOffset = fourLetters 'V' 'B' 'R' 'I' then
    varying (word? bytes (vbriOffset + 14)) (word? bytes (vbriOffset + 10))
  else
    let seen := consecutiveBitrates sampleFrames bytes
    if seen.all (· = header.bitrate) then plain
    else { plain with vbr := true, bitrate := seen.foldl (· + ·) 0 / seen.length }

/-- How many bytes behind the tag of a file are looked at. -/
def probeSize : Nat := 128 * 1024

/-- The parameters of a file with the given bytes; none if it holds no confirmed frame. -/
def ofBytes? (file : Bytes) : Option AudioParams :=
  let probe := (file.drop (Id3v2.read file).length).take probeSize
  (firstFrame? probe).map fun (position, header) => ofFrame header (probe.drop position)

end AudioParams

/-! ## Agreement -/

/-- Two files disagree on a parameter. -/
structure Mismatch where
  field : String
  expected : String
  actual : String
deriving Repr, DecidableEq

/-- The sentence that reports a mismatch. -/
def Mismatch.message (m : Mismatch) : String :=
  m.field ++ " does not match; expected " ++ m.expected ++ ", got " ++ m.actual

/-- A truth value as text. -/
def boolText (b : Bool) : String := if b then "true" else "false"

namespace AudioParams

/-- The first parameter on which two files differ, in the order variable bitrate, bitrate, sample
rate, channel mode. -/
def mismatch? (expected actual : AudioParams) : Option Mismatch :=
  if expected.vbr ≠ actual.vbr then some ⟨"vbr", boolText expected.vbr, boolText actual.vbr⟩
  else if expected.bitrate ≠ actual.bitrate then
    some ⟨"bitrate", toString expected.bitrate, toString actual.bitrate⟩
  else if expected.sampleRate ≠ actual.sampleRate then
    some ⟨"samplerate", toString expected.sampleRate, toString actual.sampleRate⟩
  else if expected.mode ≠ actual.mode then
    some ⟨"mode", expected.mode.letter, actual.mode.letter⟩
  else none

end AudioParams

end ClipSplice

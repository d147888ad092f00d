/-!
# MPEG audio frame headers

An MPEG audio stream is a sequence of frames, and each frame starts with a header of four bytes that
fixes its length. `FrameHeader.ofBytes?` decodes the header at the start of a byte sequence;
`findSync?` looks for the first place where one starts.

The header bits, from the first byte on: eleven sync bits, all set; two bits of version, two of
layer, one that is clear when a checksum follows; four bits of bitrate index, two of sample rate
index, one of padding, one private; two bits of channel mode, four that do not matter here and two
of emphasis. Reserved values make the header invalid, as do the bitrate indices 0 and 15 and the
emphasis value 2.
-/

namespace ClipSplice

/-- Raw bytes. -/
abbrev Bytes := List UInt8

/-- MPEG audio versions. -/
inductive MpegVersion where
  | one
  | two
  | twoFive
deriving Repr, DecidableEq

/-- 1, 2, or 3 for version 2.5. -/
def MpegVersion.number : MpegVersion → Nat
  | .one => 1
  | .two => 2
  | .twoFive => 3

/-- MPEG audio layers. -/
inductive Layer where
  | I
  | II
  | III
deriving Repr, DecidableEq

/-- The layer as a number from 1 to 3. -/
def Layer.number : Layer → Nat
  | .I => 1
  | .II => 2
  | .III => 3

/-- Channel modes. -/
inductive ChannelMode where
  | stereo
  | jointStereo
  | dualChannel
  | mono
deriving Repr, DecidableEq

/-- The letter that stands for a channel mode. -/
def ChannelMode.letter : ChannelMode → String
  | .stereo => "s"
  | .jointStereo => "j"
  | .dualChannel => "d"
  | .mono => "m"

/-- A decoded frame header. -/
structure FrameHeader where
  version : MpegVersion
  layer : Layer
  /-- A checksum of 16 bits follows the header. -/
  checksum : Bool
  /-- In kbit/s. -/
  bitrate : Nat
  /-- In Hz. -/
  sampleRate : Nat
  padded : Bool
  mode : ChannelMode
deriving Repr, DecidableEq

namespace FrameHeader

/-- The length of a header in bytes. -/
def size : Nat := 4

/-! ## Decoding -/

/-- The version with a given index; index 1 is reserved. -/
def versionAt? : Nat → Option MpegVersion
  | 0 => some .twoFive
  | 2 => some .two
  | 3 => some .one
  | _ => none

/-- The layer with a given index; index 0 is reserved. -/
def layerAt? : Nat → Option Layer
  | 1 => some .III
  | 2 => some .II
  | 3 => some .I
  | _ => none

/-- The bitrates with indices 1 to 14, in kbit/s. -/
def bitrates : MpegVersion → Layer → List Nat
  | .one, .I => [32, 64, 96, 128, 160, 192, 224, 256, 288, 320, 352, 384, 416, 448]
  | .one, .II => [32, 48, 56, 64, 80, 96, 112, 128, 160, 192, 224, 256, 320, 384]
  | .one, .III => [32, 40, 48, 56, 64, 80, 96, 112, 128, 160, 192, 224, 256, 320]
  | _, .I => [32, 48, 56, 64, 80, 96, 112, 128, 144, 160, 176, 192, 224, 256]
  | _, _ => [8, 16, 24, 32, 40, 48, 56, 64, 80, 96, 112, 128, 144, 160]

/-- The sample rates with indices 0 to 2, in Hz. -/
def sampleRates : MpegVersion → List Nat
  | .one => [44100, 48000, 32000]
  | .two => [22050, 24000, 16000]
  | .twoFive => [11025, 12000, 8000]

/-- The channel mode with a given index. -/
def modeAt : Nat → ChannelMode
  | 0 => .stereo
  | 1 => .jointStereo
  | 2 => .dualChannel
  | _ => .mono

/-- Decode the four bytes of a header, given as numbers. -/
def decode (b0 b1 b2 b3 : Nat) : Option FrameHeader := do
  if b0 ≠ 0xff ∨ b1 / 32 ≠ 7 then none
  let version ← versionAt? (b1 / 8 % 4)
  let layer ← layerAt? (b1 / 2 % 4)
  if b2 / 16 = 0 then none
  let bitrate ← (bitrates version layer)[b2 / 16 - 1]?
  let sampleRate ← (sampleRates version)[b2 / 4 % 4]?
  if b3 % 4 = 2 then none
  some
    { version, layer, bitrate, sampleRate
      checksum := b1 % 2 = 0
      padded := b2 / 2 % 2 = 1
      mode := modeAt (b3 / 64) }

/-- The header at the start of some bytes, if they start with a valid one. -/
def ofBytes? : Bytes → Option FrameHeader
  | b0 :: b1 :: b2 :: b3 :: _ => decode b0.toNat b1.toNat b2.toNat b3.toNat
  | _ => none

/-! ## What a header tells about its frame -/

/-- The length of the whole frame in bytes, header included. -/
def frameLength (header : FrameHeader) : Nat :=
  let bits := header.bitrate * 1000
  let padding := if header.padded then 1 else 0
  match header.layer, header.version with
  | .I, _ => (12 * bits / header.sampleRate + padding) * 4
  | .II, _ => 144 * bits / header.sampleRate + padding
  | .III, .one => 144 * bits / header.sampleRate + padding
  | .III, _ => 72 * bits / header.sampleRate + padding

/-- The number of samples that a frame encodes. -/
def samplesPerFrame (header : FrameHeader) : Nat :=
  match header.layer, header.version with
  | .I, _ => 384
  | .II, _ => 1152
  | .III, .one => 1152
  | .III, _ => 576

/-- The length of the side information of a layer III frame. -/
def sideInfoSize (header : FrameHeader) : Nat :=
  match header.version, header.mode with
  | .one, .mono => 17
  | .one, _ => 32
  | _, .mono => 9
  | _, _ => 17

/-- Where, from the start of the frame, a `Xing` or `Info` block would stand. -/
def xingOffset (header : FrameHeader) : Nat :=
  size + (if header.checksum then 2 else 0) + header.sideInfoSize

end FrameHeader

/-! ## Finding headers -/

/-- The byte that every header starts with. -/
def syncByte : UInt8 := 0xff

/-- How far into some bytes the first valid header starts; only sync bytes are looked at. -/
def firstHeader? : Bytes → Option Nat
  | [] => none
  | b :: rest =>
    if b = syncByte && (FrameHeader.ofBytes? (b :: rest)).isSome then some 0
    else (firstHeader? rest).map (· + 1)

/-- The position of the first valid header at or after `start`. -/
def findSync? (bytes : Bytes) (start : Nat) : Option Nat :=
  if start ≤ bytes.length then (firstHeader? (bytes.drop start)).map (start + ·) else none

theorem firstHeader?_lt {bytes : Bytes} {position : Nat} (h : firstHeader? bytes = some position) :
    position < bytes.length := by
  induction bytes generalizing position with
  | nil => cases h
  | cons b rest ih =>
    rw [firstHeader?] at h
    split at h
    · cases h
      exact Nat.zero_lt_succ _
    · obtain ⟨behind, hbehind, rfl⟩ := Option.map_eq_some_iff.1 h
      exact Nat.succ_lt_succ (ih hbehind)

theorem findSync?_bounds {bytes : Bytes} {start position : Nat}
    (h : findSync? bytes start = some position) : start ≤ position ∧ position < bytes.length := by
  unfold findSync? at h
  split at h
  · obtain ⟨behind, hbehind, rfl⟩ := Option.map_eq_some_iff.1 h
    have hlt := firstHeader?_lt hbehind
    rw [List.length_drop] at hlt
    omega
  · cases h

/-- Length, version and layer of a frame; all zero where there is none. -/
structure FrameInfo where
  length : Nat := 0
  version : Nat := 0
  layer : Nat := 0
deriving Repr, DecidableEq

/-- What the bytes say about the frame that they start with. -/
def frameInfo (bytes : Bytes) : FrameInfo :=
  match FrameHeader.ofBytes? bytes with
  | none => {}
  | some header =>
    { length := header.frameLength
      version := header.version.number
      layer := header.layer.number }

end ClipSplice

import ClipSplice.Audio.Boundary

/-!
# The last complete frame of some bytes

`IsFrame` and `IsFragment` tell complete and truncated frames. When bytes end in a complete frame,
perhaps with a truncated one behind it, and no other header starts in these two, then the walk from
the end finds the end of the complete frame (`alignedEnd?_append_frame`). Both together are shorter
than the window in which a file is searched, so the corrected end of a file is found in the same way
(`correctedEnd_append_frame`).
-/

namespace ClipSplice

namespace FrameHeader

/-! ## The bytes of a header -/

/-- A header is decoded from four bytes. -/
theorem ofBytes?_append {bytes : Bytes} (hsize : size ≤ bytes.length) (rest : Bytes) :
    ofBytes? (bytes ++ rest) = ofBytes? bytes := by
  match bytes, hsize with
  | _ :: _ :: _ :: _ :: _, _ => rfl

theorem ofBytes?_take {n : Nat} (hsize : size ≤ n) (bytes : Bytes) :
    ofBytes? (bytes.take n) = ofBytes? bytes := by
  obtain ⟨n, rfl⟩ : ∃ m, n = m + 4 := ⟨n - 4, by simp only [size] at hsize; omega⟩
  match bytes with
  | [] | [_] | [_, _] | [_, _, _] => simp [ofBytes?]
  | _ :: _ :: _ :: _ :: _ => rfl

theorem size_le_of_ofBytes? {bytes : Bytes} {header : FrameHeader}
    (h : ofBytes? bytes = some header) : size ≤ bytes.length := by
  match bytes, h with
  | _ :: _ :: _ :: _ :: _, _ => simp [size]

/-- What a valid header says is in the tables. -/
structure Listed (header : FrameHeader) : Prop where
  bitrate_mem : header.bitrate ∈ bitrates header.version header.layer
  sampleRate_mem : header.sampleRate ∈ sampleRates header.version

theorem decode_eq_some {b0 b1 b2 b3 : Nat} {header : FrameHeader}
    (h : decode b0 b1 b2 b3 = some header) : b0 = 0xff ∧ header.Listed := by
  simp only [decode, Option.bind_eq_bind] at h
  by_cases hsync : b0 ≠ 0xff ∨ b1 / 32 ≠ 7
  · simp [hsync] at h
  rw [if_neg hsync, Option.bind_eq_some_iff] at h
  obtain ⟨version, -, h⟩ := h
  obtain ⟨layer, -, h⟩ := Option.bind_eq_some_iff.1 h
  by_cases hindex : b2 / 16 = 0
  · simp [hindex] at h
  rw [if_neg hindex] at h
  obtain ⟨bitrate, hbitrate, h⟩ := Option.bind_eq_some_iff.1 h
  obtain ⟨sampleRate, hsampleRate, h⟩ := Option.bind_eq_some_iff.1 h
  by_cases hemphasis : b3 % 4 = 2
  · simp [hemphasis] at h
  rw [if_neg hemphasis] at h
  obtain rfl := Option.some.inj h
  exact ⟨by omega, List.mem_of_getElem? hbitrate, List.mem_of_getElem? hsampleRate⟩

theorem listed_of_ofBytes? {bytes : Bytes} {header : FrameHeader}
    (h : ofBytes? bytes = some header) : header.Listed := by
  match bytes, h with
  | _ :: _ :: _ :: _ :: _, h => exact (decode_eq_some h).2

theorem head?_of_ofBytes? {bytes : Bytes} {header : FrameHeader}
    (h : ofBytes? bytes = some header) : bytes.head? = some 0xff := by
  match bytes, h with
  | b :: _ :: _ :: _ :: _, h =>
    rw [List.head?_cons, ← UInt8.ofNat_toNat (x := b), (decode_eq_some h).1]
    rfl

/-! ## Bounds on the length of a frame -/

/-- The longest frame: layer II of version 2.5 with 160 kbit/s at 8000 Hz, padded. -/
def longestFrame : Nat := 2881

private theorem frameLength_listed (version : MpegVersion) (layer : Layer) :
    ∀ bitrate ∈ bitrates version layer, ∀ sampleRate ∈ sampleRates version, ∀ padded : Bool,
      24 ≤ frameLength ⟨version, layer, false, bitrate, sampleRate, padded, .mono⟩ ∧
        frameLength ⟨version, layer, false, bitrate, sampleRate, padded, .mono⟩ ≤ longestFrame := by
  -- protection and channels do not count, and the tables are finite
  cases version <;> cases layer <;> decide

theorem Listed.frameLength_bounds {header : FrameHeader} (h : header.Listed) :
    24 ≤ header.frameLength ∧ header.frameLength ≤ longestFrame :=
  frameLength_listed header.version header.layer header.bitrate h.bitrate_mem header.sampleRate
    h.sampleRate_mem header.padded

end FrameHeader

/-! ## Complete and truncated frames -/

/-- Some bytes are one complete frame. -/
def IsFrame (bytes : Bytes) : Prop :=
  ∃ header, FrameHeader.ofBytes? bytes = some header ∧ bytes.length = header.frameLength

/-- Some bytes are a frame that was cut off behind its header. -/
def IsFragment (bytes : Bytes) : Prop :=
  ∃ frame, IsFrame frame ∧ bytes <+: frame ∧ FrameHeader.size ≤ bytes.length ∧
    bytes.length < frame.length

theorem IsFrame.length_bounds {frame : Bytes} (h : IsFrame frame) :
    24 ≤ frame.length ∧ frame.length ≤ FrameHeader.longestFrame := by
  obtain ⟨header, hheader, hlength⟩ := h
  rw [hlength]
  exact (FrameHeader.listed_of_ofBytes? hheader).frameLength_bounds

theorem IsFragment.length_lt {bytes : Bytes} (h : IsFragment bytes) :
    bytes.length < FrameHeader.longestFrame := by
  obtain ⟨frame, hframe, -, -, hshort⟩ := h
  exact Nat.lt_of_lt_of_le hshort hframe.length_bounds.2

/-- A truncated frame still tells how long the whole frame was. -/
theorem IsFragment.exists_header {bytes : Bytes} (h : IsFragment bytes) :
    ∃ header, FrameHeader.ofBytes? bytes = some header ∧ bytes.length < header.frameLength := by
  obtain ⟨frame, ⟨header, hheader, hlength⟩, ⟨rest, rfl⟩, hsize, hshort⟩ := h
  rw [FrameHeader.ofBytes?_append hsize] at hheader
  exact ⟨header, hheader, hlength ▸ hshort⟩

/-- No header starts at a position of `bytes` between `low` and `high`; headers may reach beyond
`high`. -/
def Quiet (bytes : Bytes) (low high : Nat) : Prop :=
  ∀ p, low ≤ p → p < high → FrameHeader.ofBytes? (bytes.drop p) = none

instance (bytes : Bytes) (low high : Nat) : Decidable (Quiet bytes low high) :=
  decidable_of_iff (∀ p, p < high → low ≤ p → FrameHeader.ofBytes? (bytes.drop p) = none)
    ⟨fun h p hlow hhigh => h p hhigh hlow, fun h p hhigh hlow => h p hlow hhigh⟩

/-- Bytes that end in a complete frame, with nothing or a truncated frame behind it, and with no
header in both but the ones that they start with. -/
structure EndsInFrame (frame fragment : Bytes) : Prop where
  isFrame : IsFrame frame
  isFragment : fragment = [] ∨ IsFragment fragment
  frame_quiet : Quiet (frame ++ fragment) 1 frame.length
  fragment_quiet : Quiet fragment 1 fragment.length

/-! ## The walk from the end -/

/-- Where no header starts, the walk goes on. -/
theorem endingFrom_append_of_quiet (position : Nat) (front back : Bytes)
    (hquiet : Quiet (front ++ back) 0 front.length) :
    endingFrom position (front ++ back) = endingFrom (position + front.length) back := by
  induction front generalizing position with
  | nil => rfl
  | cons b front ih =>
    have hhere : FrameHeader.ofBytes? (b :: (front ++ back)) = none :=
      hquiet 0 (Nat.le_refl 0) (Nat.zero_lt_succ _)
    have hrest : Quiet (front ++ back) 0 front.length := fun p _ hp =>
      hquiet (p + 1) (Nat.zero_le _) (Nat.succ_lt_succ hp)
    rw [List.cons_append, endingFrom, hhere, ih (position + 1) hrest, List.length_cons,
      Nat.add_right_comm, Nat.add_assoc]
    cases endingFrom (position + (front.length + 1)) back <;> rfl

/-- Once a complete frame was found, the walk is over. -/
theorem endingFrom_append_of_found {position stop : Nat} {front back : Bytes}
    (hback : endingFrom (position + front.length) back = .found stop) :
    endingFrom position (front ++ back) = .found stop := by
  induction front generalizing position with
  | nil => exact hback
  | cons b front ih =>
    rw [List.length_cons, Nat.add_comm front.length, ← Nat.add_assoc] at hback
    rw [List.cons_append, endingFrom, ih hback]
    rfl

/-- A truncated frame is no complete one: the audio ends in front of it. -/
theorem endingFrom_fragment (position : Nat) {fragment : Bytes}
    (hfragment : fragment = [] ∨ IsFragment fragment)
    (hquiet : Quiet fragment 1 fragment.length) :
    endingFrom position fragment = .boundary position := by
  rcases hfragment with rfl | hfragment
  · rfl
  · obtain ⟨header, hheader, hshort⟩ := hfragment.exists_header
    have hsize := FrameHeader.size_le_of_ofBytes? hheader
    cases fragment with
    | nil => exact absurd hsize (by decide)
    | cons b rest =>
      have hrest : Quiet (rest ++ []) 0 rest.length := by
        rw [List.append_nil]
        exact fun p _ hp => hquiet (p + 1) (Nat.succ_pos p) (Nat.succ_lt_succ hp)
      have hwalk := endingFrom_append_of_quiet (position + 1) rest [] hrest
      rw [List.append_nil] at hwalk
      rw [List.length_cons] at hshort
      -- the header announces more bytes than there are
      have hends : ¬ position + header.frameLength = position + 1 + rest.length := by omega
      rw [endingFrom, hwalk, hheader, endingFrom, Ending.meet, if_neg hends]

/-- A frame is complete if what stands behind it is known to start where the frame ends; else all
that is known is that the audio reaches up to the frame. -/
theorem endingFrom_frame_append (position : Nat) {frame back : Bytes} {stop : Nat}
    (hframe : IsFrame frame) (hquiet : Quiet (frame ++ back) 1 frame.length)
    (hback : endingFrom (position + frame.length) back = .boundary stop) :
    endingFrom position (frame ++ back) =
      if position + frame.length = stop then .found stop else .boundary position := by
  obtain ⟨header, hheader, hlength⟩ := hframe
  have hsize := FrameHeader.size_le_of_ofBytes? hheader
  cases frame with
  | nil => exact absurd hsize (by decide)
  | cons b rest =>
    -- from behind the first byte of the frame, the walk only knows what stands behind the frame
    have hrest : Quiet (rest ++ back) 0 rest.length := fun p _ hp =>
      hquiet (p + 1) (Nat.succ_pos p) (Nat.succ_lt_succ hp)
    have hbehind : endingFrom (position + 1 + rest.length) back = .boundary stop := by
      rwa [List.length_cons, Nat.add_comm rest.length, ← Nat.add_assoc] at hback
    rw [List.cons_append, endingFrom, endingFrom_append_of_quiet _ rest back hrest, hbehind,
      ← List.cons_append, FrameHeader.ofBytes?_append hsize, hheader, Ending.meet, hlength]

theorem endingFrom_frame (position : Nat) {frame fragment : Bytes}
    (hends : EndsInFrame frame fragment) :
    endingFrom position (frame ++ fragment) = .found (position + frame.length) := by
  have hbehind := endingFrom_fragment (position + frame.length) hends.isFragment
    hends.fragment_quiet
  rw [endingFrom_frame_append position hends.isFrame hends.frame_quiet hbehind, if_pos rfl]

/-! ## The end of the last complete frame -/

theorem alignedEnd?_append_frame (front : Bytes) {frame fragment : Bytes}
    (hends : EndsInFrame frame fragment) :
    alignedEnd? (front ++ (frame ++ fragment)) = some (front.length + frame.length) := by
  have hwalk : endingFrom 0 (front ++ (frame ++ fragment)) = .found _ :=
    endingFrom_append_of_found (endingFrom_frame (0 + front.length) hends)
  rw [alignedEnd?, hwalk, Nat.zero_add]

/-- The window in which a file is searched holds every complete frame with a truncated one behind
it. -/
theorem EndsInFrame.length_le_syncWindow {frame fragment : Bytes}
    (hends : EndsInFrame frame fragment) :
    frame.length + fragment.length ≤ syncWindow := by
  have hframe := hends.isFrame.length_bounds.2
  have hfragment : fragment.length < FrameHeader.longestFrame := by
    rcases hends.isFragment with rfl | hfragment
    · decide
    · exact hfragment.length_lt
  simp only [FrameHeader.longestFrame, syncWindow] at *
  omega

/-- What follows the audio of a file does not matter, however much of the window it could fill. -/
theorem correctedEnd_append_frame (front : Bytes) {frame fragment : Bytes}
    (hends : EndsInFrame frame fragment) {window : Nat}
    (hwindow : frame.length + fragment.length ≤ window) (back : Bytes) :
    correctedEnd (front ++ (frame ++ fragment) ++ back)
        (front ++ (frame ++ fragment)).length window = front.length + frame.length := by
  -- the window may start inside the bytes in front, but not behind them
  have hstart : (front ++ (frame ++ fragment)).length - window ≤ front.length := by
    simp only [List.length_append]
    omega
  generalize hfrom : (front ++ (frame ++ fragment)).length - window = start at hstart
  have hcut : ((front ++ (frame ++ fragment) ++ back).drop start).take
      ((front ++ (frame ++ fragment)).length - start) =
        front.drop start ++ (frame ++ fragment) := by
    rw [List.drop_append_of_le_length (by rw [List.length_append]; omega),
      List.drop_append_of_le_length hstart]
    refine List.take_left' ?_
    simp only [List.length_append, List.length_drop]
    omega
  simp only [correctedEnd, hfrom, hcut, alignedEnd?_append_frame _ hends, List.length_drop]
  omega

end ClipSplice

import ClipSplice.Audio.Params
import ClipSplice.Proofs.TagFraming

/-!
# The first frames of a file

The parameters of a file are found at its first frame as soon as something behind that frame
confirms it: another frame, an ID3v1 tag or the end (`AudioParams.ofBytes?_frames`). Where no frame
can carry counts, they tell a constant bitrate just when all frames that are sampled have the same
one (`AudioParams.ofFrame_of_sampledAt`, `AudioParams.sampledAt_of_ofFrame`). Frames that are
followed by something else keep their part of the sample (`sampledAt_frames`).
-/

namespace ClipSplice

/-! ## What stands behind a frame -/

/-- What may stand behind a frame to confirm it: the end, an ID3v1 tag or a header. -/
def ConfirmsFrame (rest : Bytes) : Prop :=
  rest = [] ∨ Id3v1.marker <+: rest ∨ (FrameHeader.ofBytes? rest).isSome

theorem ConfirmsFrame.take {rest : Bytes} (h : ConfirmsFrame rest) {n : Nat}
    (hn : FrameHeader.size ≤ n) : ConfirmsFrame (rest.take n) := by
  rcases h with rfl | ⟨behind, rfl⟩ | hheader
  · exact .inl List.take_nil
  · refine .inr (.inl ?_)
    have hmarker : Id3v1.marker.length ≤ n := Nat.le_trans (by decide) hn
    rw [List.take_append, List.take_of_length_le hmarker]
    exact List.prefix_append _ _
  · exact .inr (.inr (by rwa [FrameHeader.ofBytes?_take hn]))

/-- A frame that something else follows starts with a sync byte or with a letter of a tag. -/
theorem ConfirmsFrame.head {rest : Bytes} (h : ConfirmsFrame rest) {c : UInt8}
    (hc : rest.head? = some c) : c = 0xff ∨ c = 0x54 := by
  rcases h with rfl | ⟨behind, rfl⟩ | hheader
  · cases hc
  · exact .inr (Option.some.inj hc).symm
  · obtain ⟨header, hheader⟩ := Option.isSome_iff_exists.1 hheader
    rw [FrameHeader.head?_of_ofBytes? hheader] at hc
    exact .inl (Option.some.inj hc).symm

/-- The end of a file, or an ID3v1 tag there, confirms a frame in front of it. -/
theorem confirmsFrame_of_trailer {trailer : Bytes} (h : trailer = [] ∨ Id3v1.IsTag trailer) :
    ConfirmsFrame trailer := by
  rcases h with hnil | htag
  · exact .inl hnil
  · exact .inr (.inl htag.2)

/-- No frame starts with a tag. -/
theorem ofBytes?_of_trailer {trailer : Bytes} (h : trailer = [] ∨ Id3v1.IsTag trailer) :
    FrameHeader.ofBytes? trailer = none := by
  rcases h with rfl | ⟨-, rest, rfl⟩
  · rfl
  · cases hheader : FrameHeader.ofBytes? (Id3v1.marker ++ rest) with
    | none => rfl
    | some header =>
      have hhead := FrameHeader.head?_of_ofBytes? hheader
      exact absurd (Option.some.inj hhead) (by decide)

theorem confirmsFrame_append_of_isFrame {frame : Bytes} (h : IsFrame frame) (rest : Bytes) :
    ConfirmsFrame (frame ++ rest) := by
  obtain ⟨header, hheader, -⟩ := h
  refine .inr (.inr ?_)
  rw [FrameHeader.ofBytes?_append (FrameHeader.size_le_of_ofBytes? hheader), hheader]
  rfl

theorem confirmsFrame_frames {frames : List Bytes} (hframes : ∀ frame ∈ frames, IsFrame frame)
    {rest : Bytes} (hrest : ConfirmsFrame rest) : ConfirmsFrame (frames.flatten ++ rest) := by
  cases frames with
  | nil => exact hrest
  | cons frame frames =>
    rw [List.flatten_cons, List.append_assoc]
    exact confirmsFrame_append_of_isFrame (hframes frame List.mem_cons_self) _

/-! ## The first frame -/

theorem confirmed_iff {header : FrameHeader} {bytes : Bytes} :
    confirmed header bytes = true ↔ ConfirmsFrame (bytes.drop header.frameLength) := by
  simp only [confirmed, ConfirmsFrame, Bool.or_eq_true, List.isEmpty_iff,
    List.isPrefixOf_iff_prefix, or_assoc]

theorem firstFrame?_of_confirmed {header : FrameHeader} {bytes : Bytes}
    (hheader : FrameHeader.ofBytes? bytes = some header)
    (hconfirmed : confirmed header bytes = true) : firstFrame? bytes = some (0, header) := by
  have hsync : findSync? bytes 0 = some 0 := by
    cases bytes with
    | nil => cases hheader
    | cons b rest =>
      have hb : b = syncByte := Option.some.inj (FrameHeader.head?_of_ofBytes? hheader)
      rw [findSync?, if_pos (Nat.zero_le _), List.drop_zero, firstHeader?, hheader,
        decide_eq_true hb]
      rfl
  rw [firstFrame?, firstFrameFrom?_of_some hsync, List.drop_zero, hheader, Option.filter_some,
    if_pos hconfirmed]

/-! ## Sampled frames -/

/-- All frames that are sampled have a certain bitrate. -/
def SampledAt (bitrate count : Nat) (bytes : Bytes) : Prop :=
  ∀ rate ∈ consecutiveBitrates count bytes, rate = bitrate

/-- What is sampled lies at the start of some bytes. -/
theorem consecutiveBitrates_take {count n : Nat}
    (hn : count * FrameHeader.longestFrame + FrameHeader.size ≤ n) (bytes : Bytes) :
    consecutiveBitrates count (bytes.take n) = consecutiveBitrates count bytes := by
  induction count generalizing n bytes with
  | zero => rfl
  | succ count ih =>
    rw [Nat.succ_mul] at hn
    rw [consecutiveBitrates, consecutiveBitrates, FrameHeader.ofBytes?_take (by omega)]
    cases hheader : FrameHeader.ofBytes? bytes with
    | none => rfl
    | some header =>
      have hlength := (FrameHeader.listed_of_ofBytes? hheader).frameLength_bounds.2
      simp only
      rw [List.drop_take, ih (by omega)]

theorem consecutiveBitrates_frame {frame : Bytes} {header : FrameHeader}
    (hheader : FrameHeader.ofBytes? frame = some header)
    (hlength : frame.length = header.frameLength) (count : Nat) (rest : Bytes) :
    consecutiveBitrates (count + 1) (frame ++ rest) =
      header.bitrate :: consecutiveBitrates count rest := by
  rw [consecutiveBitrates, FrameHeader.ofBytes?_append (FrameHeader.size_le_of_ofBytes? hheader),
    hheader]
  simp only
  rw [← hlength, List.drop_left]

theorem consecutiveBitrates_of_none {bytes : Bytes} (h : FrameHeader.ofBytes? bytes = none)
    (count : Nat) : consecutiveBitrates count bytes = [] := by
  cases count with
  | zero => rfl
  | succ count => rw [consecutiveBitrates, h]

theorem SampledAt.of_succ {bitrate count : Nat} {bytes : Bytes}
    (h : SampledAt bitrate (count + 1) bytes) : SampledAt bitrate count bytes := by
  induction count generalizing bytes with
  | zero => exact nofun
  | succ count ih =>
    unfold SampledAt at h ⊢
    rw [consecutiveBitrates] at h ⊢
    cases hheader : FrameHeader.ofBytes? bytes with
    | none => exact nofun
    | some header =>
      simp only [hheader, List.forall_mem_cons] at h ⊢
      exact ⟨h.1, ih h.2⟩

/-- Frames that were sampled with one thing behind them may be sampled with another, if its own
frames have the same bitrate. -/
theorem sampledAt_frames {bitrate count : Nat} {frames : List Bytes}
    (hframes : ∀ frame ∈ frames, IsFrame frame) {behind rest : Bytes}
    (h : SampledAt bitrate count (frames.flatten ++ behind))
    (hrest : SampledAt bitrate count rest) : SampledAt bitrate count (frames.flatten ++ rest) := by
  induction frames generalizing count with
  | nil => exact hrest
  | cons frame frames ih =>
    cases count with
    | zero => exact nofun
    | succ count =>
      obtain ⟨header, hheader, hlength⟩ := hframes frame List.mem_cons_self
      have hmore : ∀ frame ∈ frames, IsFrame frame := fun other hother =>
        hframes other (List.mem_cons_of_mem _ hother)
      unfold SampledAt at h ⊢
      rw [List.flatten_cons, List.append_assoc, consecutiveBitrates_frame hheader hlength,
        List.forall_mem_cons] at h ⊢
      exact ⟨h.1, ih hmore h.2 hrest.of_succ⟩

/-! ## Blocks in the first frame -/

namespace AudioParams

/-- The letters that mark the blocks of a first frame. -/
def markers : List Bytes :=
  [fourLetters 'X' 'i' 'n' 'g', fourLetters 'I' 'n' 'f' 'o', fourLetters 'V' 'B' 'R' 'I']

/-- No block is marked anywhere in some bytes. -/
def Unmarked (bytes : Bytes) : Prop := ∀ marker ∈ markers, ¬ marker <:+: bytes

instance (bytes : Bytes) : Decidable (Unmarked bytes) := by unfold Unmarked; infer_instance

theorem Unmarked.of_part {part bytes : Bytes} (h : Unmarked bytes) (hpart : part <:+: bytes) :
    Unmarked part := fun marker hmarker hinfix => h marker hmarker (List.IsInfix.trans hinfix hpart)

/-- No marker reaches from audio into the frame or the tag behind it. -/
theorem Unmarked.append {front rest : Bytes} (hfront : Unmarked front) (hrest : Unmarked rest)
    (hconfirms : ConfirmsFrame rest) : Unmarked (front ++ rest) := by
  intro marker hmarker hinfix
  rcases List.infix_append_iff_ne_nil.1 hinfix with h | h | ⟨left, right, -, hne, rfl, -, hprefix⟩
  · exact hfront marker hmarker h
  · exact hrest marker hmarker h
  · obtain ⟨c, more, rfl⟩ := List.exists_cons_of_ne_nil hne
    obtain ⟨behind, rfl⟩ := hprefix
    have hfirst : ∀ marker ∈ markers, (0xff : UInt8) ∉ marker ∧ (0x54 : UInt8) ∉ marker := by decide
    have hc : c ∈ left ++ c :: more := List.mem_append_right _ List.mem_cons_self
    rcases hconfirms.head rfl with rfl | rfl
    · exact (hfirst _ hmarker).1 hc
    · exact (hfirst _ hmarker).2 hc

theorem fourBytes_notMem {bytes : Bytes} (h : Unmarked bytes) (offset : Nat) :
    fourBytes bytes offset ∉ markers := fun hmarker =>
  h _ hmarker ((List.take_prefix 4 _).isInfix.trans (List.drop_suffix offset bytes).isInfix)

/-- A frame whose header stands at the start of some bytes is not the place of counts: there is no
marker where a block would stand. -/
structure Plain (header : FrameHeader) (bytes : Bytes) : Prop where
  ne_xing : fourBytes bytes header.xingOffset ≠ fourLetters 'X' 'i' 'n' 'g'
  ne_info : fourBytes bytes header.xingOffset ≠ fourLetters 'I' 'n' 'f' 'o'
  ne_vbri : fourBytes bytes vbriOffset ≠ fourLetters 'V' 'B' 'R' 'I'

theorem Unmarked.plain {bytes : Bytes} (h : Unmarked bytes) (header : FrameHeader) :
    Plain header bytes := by
  have hmarked := fourBytes_notMem h
  simp only [markers, List.mem_cons, List.not_mem_nil, or_false, not_or] at hmarked
  exact ⟨(hmarked _).1, (hmarked _).2.1, (hmarked _).2.2⟩

/-- Without a marked block the bitrates of the first frames count. -/
theorem ofFrame_of_plain {header : FrameHeader} {bytes : Bytes} (h : Plain header bytes) :
    ofFrame header bytes =
      let seen := consecutiveBitrates sampleFrames bytes
      if seen.all (· = header.bitrate) then
        ⟨false, header.bitrate, header.sampleRate, header.mode⟩
      else ⟨true, seen.foldl (· + ·) 0 / seen.length, header.sampleRate, header.mode⟩ := by
  simp only [ofFrame, h.ne_xing, h.ne_info, h.ne_vbri, if_false]

theorem ofFrame_of_sampledAt {header : FrameHeader} {bytes : Bytes} (h : Unmarked bytes)
    (hsampled : SampledAt header.bitrate sampleFrames bytes) :
    ofFrame header bytes = ⟨false, header.bitrate, header.sampleRate, header.mode⟩ := by
  rw [ofFrame_of_plain (h.plain header)]
  simp only
  rw [if_pos]
  rw [List.all_eq_true]
  exact fun rate hrate => decide_eq_true (hsampled rate hrate)

theorem sampledAt_of_ofFrame {header : FrameHeader} {bytes : Bytes} (h : Unmarked bytes)
    (hvbr : (ofFrame header bytes).vbr = false) :
    SampledAt header.bitrate sampleFrames bytes := by
  rw [ofFrame_of_plain (h.plain header)] at hvbr
  simp only at hvbr
  split at hvbr
  · rename_i hall
    exact fun rate hrate => of_decide_eq_true (List.all_eq_true.1 hall rate hrate)
  · cases hvbr

/-! ## The parameters of frames between tags -/

/-- The parameters of a file are found at its first frame. -/
theorem ofBytes?_frames {tag frame rest : Bytes} {header : FrameHeader}
    (htag : tag = [] ∨ Id3v2.IsTag tag) (hheader : FrameHeader.ofBytes? frame = some header)
    (hlength : frame.length = header.frameLength) (hrest : ConfirmsFrame rest) :
    ofBytes? (tag ++ (frame ++ rest)) = some (ofFrame header ((frame ++ rest).take probeSize)) := by
  have hsize := FrameHeader.size_le_of_ofBytes? hheader
  have hframe : FrameHeader.ofBytes? (frame ++ rest) = some header := by
    rw [FrameHeader.ofBytes?_append hsize, hheader]
  have hbounds := (FrameHeader.listed_of_ofBytes? hheader).frameLength_bounds.2
  have hbehind : FrameHeader.size ≤ probeSize - header.frameLength := by
    have hprobe : probeSize = 131072 := rfl
    have hlongest : FrameHeader.longestFrame = 2881 := rfl
    have hfour : FrameHeader.size = 4 := rfl
    omega
  have hprobe : FrameHeader.ofBytes? ((frame ++ rest).take probeSize) = some header := by
    rw [FrameHeader.ofBytes?_take (by decide), hframe]
  have hconfirmed : confirmed header ((frame ++ rest).take probeSize) = true := by
    refine confirmed_iff.2 ?_
    rw [List.drop_take, ← hlength, List.drop_left, hlength]
    exact hrest.take hbehind
  have hread : Id3v2.read (tag ++ (frame ++ rest)) = tag :=
    Id3v2.read_append_audio htag (by rw [hframe]; rfl)
  unfold ofBytes?
  rw [hread, List.drop_left]
  simp only [firstFrame?_of_confirmed hprobe hconfirmed, Option.map_some, List.drop_zero]

/-- The sample lies within the bytes that are looked at. -/
theorem sampledAt_take_probeSize {bitrate : Nat} {bytes : Bytes} :
    SampledAt bitrate sampleFrames (bytes.take probeSize) ↔
      SampledAt bitrate sampleFrames bytes := by
  unfold SampledAt
  rw [consecutiveBitrates_take (by decide)]

end AudioParams

end ClipSplice

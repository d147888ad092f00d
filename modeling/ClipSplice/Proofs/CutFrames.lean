import ClipSplice.Proofs.LastFrame

/-!
# Frames with a truncated one behind them

Complete frames, one behind the other, are followed by the beginning of one more frame. When the
beginning is empty or still has its header, the end of the last complete frame is found. When it is
cut off inside its header, the one to three bytes that are left are taken for the end of the audio:
the last complete frame does not reach to them and is lost with them (`alignedEnd?_of_cutFrames`).
-/

namespace ClipSplice

/-- Complete frames with the beginning of one more behind them, and with no headers but those that
the frames start with. -/
structure CutFrames (frames : List Bytes) (cut : Bytes) : Prop where
  isFrame : ∀ frame ∈ frames, IsFrame frame
  exists_frame : ∃ frame, IsFrame frame ∧ cut <+: frame ∧ cut.length < frame.length
  starts : ∀ p, (FrameHeader.ofBytes? ((frames.flatten ++ cut).drop p)).isSome →
    ∃ i, p = (frames.take i).flatten.length

namespace CutFrames

variable {front back : List Bytes} {frame cut : Bytes}

theorem length_flatten_take_le (frames : List Bytes) (i : Nat) :
    (frames.take i).flatten.length ≤ frames.flatten.length := by
  have hsplit : frames.flatten = (frames.take i).flatten ++ (frames.drop i).flatten := by
    rw [← List.flatten_append, List.take_append_drop]
  rw [hsplit, List.length_append]
  exact Nat.le_add_right _ _

/-- No frame starts inside another one. -/
theorem length_flatten_take (front back : List Bytes) (frame : Bytes) (i : Nat) :
    ((front ++ frame :: back).take i).flatten.length ≤ front.flatten.length ∨
      front.flatten.length + frame.length ≤
        ((front ++ frame :: back).take i).flatten.length := by
  by_cases hi : i ≤ front.length
  · rw [List.take_append_of_le_length hi]
    exact .inl (length_flatten_take_le front i)
  · obtain ⟨j, rfl⟩ : ∃ j, i = front.length + (j + 1) := ⟨i - front.length - 1, by omega⟩
    rw [List.take_length_add_append, List.take_succ_cons, List.flatten_append, List.flatten_cons,
      List.length_append, List.length_append]
    omega

theorem frame_quiet (h : CutFrames (front ++ frame :: back) cut) :
    Quiet (frame ++ (back.flatten ++ cut)) 1 frame.length := by
  intro p hp hlt
  refine Option.eq_none_iff_forall_ne_some.2 fun header hheader => ?_
  have hwhole : (front ++ frame :: back).flatten ++ cut =
      front.flatten ++ (frame ++ (back.flatten ++ cut)) := by
    rw [List.flatten_append, List.flatten_cons, List.append_assoc, List.append_assoc]
  obtain ⟨i, hi⟩ := h.starts (front.flatten.length + p) (by
    rw [hwhole, List.drop_length_add_append, hheader]
    rfl)
  rcases length_flatten_take front back frame i with hle | hle
  · omega
  · omega

theorem cut_quiet {frames : List Bytes} (h : CutFrames frames cut) :
    Quiet cut 1 cut.length := by
  intro p hp hlt
  refine Option.eq_none_iff_forall_ne_some.2 fun header hheader => ?_
  obtain ⟨i, hi⟩ := h.starts (frames.flatten.length + p) (by
    rw [List.drop_length_add_append, hheader]
    rfl)
  have hle := length_flatten_take_le frames i
  omega

/-- With nothing or a whole header behind it, the last frame stands before a truncated one. -/
theorem endsInFrame (h : CutFrames (front ++ [frame]) cut)
    (hcut : cut = [] ∨ FrameHeader.size ≤ cut.length) : EndsInFrame frame cut where
  isFrame := h.isFrame frame (List.mem_append_right front List.mem_cons_self)
  isFragment := by
    obtain ⟨whole, hwhole, hbegins, hshort⟩ := h.exists_frame
    exact hcut.imp_right fun hsize => ⟨whole, hwhole, hbegins, hsize, hshort⟩
  frame_quiet := h.frame_quiet
  fragment_quiet := h.cut_quiet

/-- Behind a frame that was cut off inside its header, the audio is taken to end with the bytes. -/
theorem endingFrom_cut (position : Nat) (hcut : cut.length < FrameHeader.size) :
    endingFrom position cut = .boundary (position + cut.length) := by
  have hquiet : Quiet (cut ++ []) 0 cut.length := by
    intro p _ _
    refine Option.eq_none_iff_forall_ne_some.2 fun header hheader => ?_
    have hsize := FrameHeader.size_le_of_ofBytes? hheader
    rw [List.append_nil, List.length_drop] at hsize
    omega
  have hwalk := endingFrom_append_of_quiet position cut [] hquiet
  rwa [List.append_nil] at hwalk

/-- A frame with a cut header behind it is not taken for complete. -/
theorem endingFrom_last (h : CutFrames (front ++ [frame]) cut) (hne : cut ≠ [])
    (hcut : cut.length < FrameHeader.size) (position : Nat) :
    endingFrom position (frame ++ cut) = .boundary position := by
  have hframe := h.isFrame frame (List.mem_append_right front List.mem_cons_self)
  have hquiet : Quiet (frame ++ cut) 1 frame.length := h.frame_quiet
  have hpos := List.length_pos_iff.2 hne
  rw [endingFrom_frame_append position hframe hquiet (endingFrom_cut _ hcut), if_neg (by omega)]

end CutFrames

/-- The end of the last complete frame is found when nothing or a whole header stands behind it.
Behind a header that is cut off, the end of the frame before the last one is found, if there is
one. -/
theorem alignedEnd?_of_cutFrames {frames : List Bytes} {cut : Bytes} (hne : frames ≠ [])
    (h : CutFrames frames cut) :
    alignedEnd? (frames.flatten ++ cut) =
      if cut = [] ∨ FrameHeader.size ≤ cut.length then some frames.flatten.length
      else if frames.length = 1 then none
      else some frames.dropLast.flatten.length := by
  obtain ⟨front, last, rfl⟩ : ∃ front last, frames = front ++ [last] :=
    ⟨_, _, (List.dropLast_concat_getLast hne).symm⟩
  have hflatten : (front ++ [last]).flatten = front.flatten ++ last := by
    rw [List.flatten_append, List.flatten_singleton]
  rw [hflatten, List.append_assoc, List.length_append, List.length_append,
    List.dropLast_concat]
  by_cases hcut : cut = [] ∨ FrameHeader.size ≤ cut.length
  · rw [if_pos hcut, alignedEnd?_append_frame front.flatten (h.endsInFrame hcut)]
  · rw [if_neg hcut]
    rw [not_or, Nat.not_le] at hcut
    have hlast := h.endingFrom_last hcut.1 hcut.2
    rcases List.eq_nil_or_concat front with rfl | ⟨before, previous, hfront⟩
    · rw [List.flatten_nil, List.nil_append, alignedEnd?, hlast 0]
      rfl
    · -- the frame before the last one ends where the last one starts
      rw [List.concat_eq_append] at hfront
      subst hfront
      have hprevious : CutFrames (before ++ previous :: [last]) cut := by
        rwa [List.append_assoc] at h
      have hframe := hprevious.isFrame previous (by simp)
      have hquiet := hprevious.frame_quiet
      rw [List.flatten_singleton] at hquiet
      have hfound : ∀ position, endingFrom position (previous ++ (last ++ cut)) =
          .found (position + previous.length) := fun position => by
        rw [endingFrom_frame_append position hframe hquiet (hlast _), if_pos rfl]
      rw [List.flatten_append, List.flatten_singleton, List.append_assoc, alignedEnd?,
        endingFrom_append_of_found (hfound _)]
      simp

/-! ### Short frames -/

/-- One of the shortest frames: 24 bytes, filled with `0x55`. -/
def shortFrame : Bytes := [0xff, 0xf3, 0x14, 0xc4] ++ List.replicate 20 0x55

private theorem starts_shortFrame : ∀ size < 24, ∀ p < 48 + size,
    (FrameHeader.ofBytes? ((shortFrame ++ shortFrame ++ shortFrame.take size).drop p)).isSome →
      p = 0 ∨ p = 24 ∨ p = 48 := by
  decide +kernel

/-- Two short frames and the first bytes of a third one. -/
theorem cutFrames_shortFrame (size : Nat) (hsize : size < 24) :
    CutFrames [shortFrame, shortFrame] (shortFrame.take size) where
  isFrame := by
    have hframe : IsFrame shortFrame := ⟨_, rfl, by decide⟩
    simp [hframe]
  exists_frame := ⟨shortFrame, ⟨_, rfl, by decide⟩, List.take_prefix _ _, by
    rw [List.length_take]
    exact Nat.lt_of_le_of_lt (Nat.min_le_left _ _) hsize⟩
  starts := by
    intro p hheader
    have hlength : (shortFrame ++ shortFrame ++ shortFrame.take size).length = 48 + size := by
      have hframe : shortFrame.length = 24 := rfl
      rw [List.length_append, List.length_append, List.length_take, hframe]
      omega
    have hflatten : [shortFrame, shortFrame].flatten = shortFrame ++ shortFrame := by simp
    rw [hflatten] at hheader
    by_cases hp : p < 48 + size
    · rcases starts_shortFrame size hsize p hp hheader with rfl | rfl | rfl
      · exact ⟨0, rfl⟩
      · exact ⟨1, rfl⟩
      · exact ⟨2, rfl⟩
    · rw [List.drop_eq_nil_of_le (by omega)] at hheader
      cases hheader

/-- A third frame that still has its header is dropped, and of one that is cut off inside it the
second frame goes with it. -/
theorem alignedEnd?_of_cutFrames_shortFrame :
    CutFrames [shortFrame, shortFrame] (shortFrame.take 7) ∧
      CutFrames [shortFrame, shortFrame] (shortFrame.take 1) ∧
      alignedEnd? ([shortFrame, shortFrame].flatten ++ shortFrame.take 7) = some 48 ∧
      alignedEnd? ([shortFrame, shortFrame].flatten ++ shortFrame.take 1) = some 24 := by
  have hheader := cutFrames_shortFrame 7 (by decide)
  have hcut := cutFrames_shortFrame 1 (by decide)
  refine ⟨hheader, hcut, ?_, ?_⟩
  · rw [alignedEnd?_of_cutFrames (by simp) hheader]
    rfl
  · rw [alignedEnd?_of_cutFrames (by simp) hcut]
    rfl

/-- Two complete frames and the first byte of a third one: the end that is found is not that of the
second frame. -/
theorem alignedEnd?_ne_of_cut_header :
    CutFrames [shortFrame, shortFrame] [0xff] ∧
      alignedEnd? ([shortFrame, shortFrame].flatten ++ [0xff]) ≠
        some [shortFrame, shortFrame].flatten.length :=
  ⟨cutFrames_shortFrame 1 (by decide), by decide⟩

end ClipSplice

import ClipSplice.Proofs.Agreement
import ClipSplice.Proofs.FirstFrames

/-!
# Streams of frames

A stream is complete frames of any kind written one after the other. Sampling a stream walks from
frame to frame and stops at its end, whether the file ends there or an ID3v1 tag follows
(`consecutiveBitrates_stream`), and everything else that a first frame tells about a file stands in
its first 54 bytes (`AudioParams.ofFrame_congr`). From these two facts follow the parameters of a
plain stream (`AudioParams.ofFile_stream`) and that tags around a stream do not change them
(`AudioParams.ofFile_tagged_stream`).
-/

namespace ClipSplice

/-- A complete frame with its header. -/
structure CompleteFrame where
  header : FrameHeader
  bytes : Bytes
  starts : FrameHeader.ofBytes? bytes = some header
  complete : bytes.length = header.frameLength

namespace CompleteFrame

theorem isFrame (frame : CompleteFrame) : IsFrame frame.bytes :=
  ⟨frame.header, frame.starts, frame.complete⟩

/-- The bytes of some frames, written one after the other. -/
def stream (frames : List CompleteFrame) : Bytes := frames.flatMap CompleteFrame.bytes

theorem stream_cons (frame : CompleteFrame) (frames : List CompleteFrame) :
    stream (frame :: frames) = frame.bytes ++ stream frames := List.flatMap_cons

theorem confirmsFrame_stream (frames : List CompleteFrame) {rest : Bytes}
    (hrest : ConfirmsFrame rest) : ConfirmsFrame (stream frames ++ rest) := by
  rw [stream, List.flatMap_def]
  apply confirmsFrame_frames _ hrest
  intro bytes hbytes
  obtain ⟨frame, -, rfl⟩ := List.mem_map.1 hbytes
  exact frame.isFrame

end CompleteFrame

open CompleteFrame

/-- The sample of a stream: the bitrates of its first frames, and none of what follows it. -/
theorem consecutiveBitrates_stream (frames : List CompleteFrame) (count : Nat) {rest : Bytes}
    (hrest : FrameHeader.ofBytes? rest = none) :
    consecutiveBitrates count (stream frames ++ rest) =
      (frames.take count).map fun frame => frame.header.bitrate := by
  induction frames generalizing count with
  | nil =>
    rw [List.take_nil]
    exact consecutiveBitrates_of_none hrest count
  | cons frame frames ih =>
    cases count with
    | zero => rfl
    | succ count =>
      rw [stream_cons, List.append_assoc, consecutiveBitrates_frame frame.starts frame.complete,
        ih count]
      rfl

/-! ## Counts at the start of a frame -/

/-- The last place that is looked at for counts, with the longest side information and a checksum:
a marker, flags and two counts. -/
def countsSize : Nat := 54

theorem FrameHeader.sideInfoSize_le (header : FrameHeader) : header.sideInfoSize ≤ 32 := by
  unfold sideInfoSize
  split <;> decide

theorem FrameHeader.xingOffset_le (header : FrameHeader) :
    header.xingOffset + 16 ≤ countsSize := by
  have hside := header.sideInfoSize_le
  unfold xingOffset size countsSize
  split <;> omega

theorem take_drop_take {bytes : Bytes} {n offset k : Nat} (h : offset + k ≤ n) :
    ((bytes.take n).drop offset).take k = (bytes.drop offset).take k := by
  rw [List.drop_take, List.take_take, Nat.min_eq_left (by omega)]

theorem fourBytes_take {bytes : Bytes} {n offset : Nat} (h : offset + 4 ≤ n) :
    fourBytes (bytes.take n) offset = fourBytes bytes offset := take_drop_take h

/-- A number is written in four bytes. -/
theorem word?_take {bytes : Bytes} {n offset : Nat} (h : offset + 4 ≤ n) :
    word? (bytes.take n) offset = word? bytes offset := by
  obtain ⟨k, hk⟩ : ∃ k, n - offset = k + 4 := ⟨n - offset - 4, by omega⟩
  rw [word?, word?, List.drop_take, hk]
  match bytes.drop offset with
  | [] | [_] | [_, _] | [_, _, _] => rfl
  | _ :: _ :: _ :: _ :: _ => rfl

theorem flaggedCounts_take {bytes : Bytes} {n offset : Nat} (h : offset + 12 ≤ n) :
    flaggedCounts (bytes.take n) offset = flaggedCounts bytes offset := by
  simp only [flaggedCounts]
  rw [word?_take (by omega), word?_take (by omega), word?_take (by omega)]

namespace AudioParams

/-- What a first frame tells depends on its first bytes and on the sample. -/
theorem ofFrame_congr (header : FrameHeader) {bytes bytes' : Bytes}
    (hcounts : bytes.take countsSize = bytes'.take countsSize)
    (hsample : consecutiveBitrates sampleFrames bytes = consecutiveBitrates sampleFrames bytes') :
    ofFrame header bytes = ofFrame header bytes' := by
  have hxing := header.xingOffset_le
  have hvbri : vbriOffset + 18 ≤ countsSize := by decide
  have hfour : ∀ offset, offset + 4 ≤ countsSize →
      fourBytes bytes offset = fourBytes bytes' offset := by
    intro offset hoffset
    rw [← fourBytes_take hoffset, hcounts, fourBytes_take hoffset]
  have hword : ∀ offset, offset + 4 ≤ countsSize → word? bytes offset = word? bytes' offset := by
    intro offset hoffset
    rw [← word?_take hoffset, hcounts, word?_take hoffset]
  have hflagged : flaggedCounts bytes (header.xingOffset + 4) =
      flaggedCounts bytes' (header.xingOffset + 4) := by
    rw [← flaggedCounts_take hxing, hcounts, flaggedCounts_take hxing]
  simp only [ofFrame, hsample, hflagged]
  rw [hfour _ (by omega), hfour _ (by omega), hword _ (by omega), hword _ (by omega)]

/-! ## Streams in files -/

variable {tag trailer : Bytes}

/-- The parameters of a file with a stream, between tags that may be missing. -/
theorem ofBytes?_stream (htag : tag = [] ∨ Id3v2.IsTag tag)
    (htrailer : trailer = [] ∨ Id3v1.IsTag trailer) (first : CompleteFrame)
    (more : List CompleteFrame) :
    ofBytes? (tag ++ (stream (first :: more) ++ trailer)) =
      some (ofFrame first.header ((stream (first :: more) ++ trailer).take probeSize)) := by
  rw [stream_cons, List.append_assoc]
  exact ofBytes?_frames htag first.starts first.complete
    (confirmsFrame_stream more (confirmsFrame_of_trailer htrailer))

/-- The sample of a file is that of its stream: the bytes that are looked at reach far enough. -/
theorem consecutiveBitrates_probe (htrailer : trailer = [] ∨ Id3v1.IsTag trailer)
    (frames : List CompleteFrame) :
    consecutiveBitrates sampleFrames ((stream frames ++ trailer).take probeSize) =
      (frames.take sampleFrames).map fun frame => frame.header.bitrate := by
  rw [consecutiveBitrates_take (by decide),
    consecutiveBitrates_stream frames sampleFrames (ofBytes?_of_trailer htrailer)]

/-- A file that is a stream, perhaps with an ID3v1 tag behind it, and whose first frame has no
marker where one is looked for: it has the sample rate and the channel mode of its first frame. Its
bitrate varies just when one of the first 32 frames has another bitrate than the first one, and it
is then the mean of these, rounded down. -/
theorem ofFile_stream (tree : FileTree) (path : FilePath) (first : CompleteFrame)
    (more : List CompleteFrame) (trailer : Bytes) (htrailer : trailer = [] ∨ Id3v1.IsTag trailer)
    (hread : tree.read path = .ok (stream (first :: more) ++ trailer))
    (hxing : fourBytes (stream (first :: more) ++ trailer) first.header.xingOffset ∉
      [fourLetters 'X' 'i' 'n' 'g', fourLetters 'I' 'n' 'f' 'o'])
    (hvbri : fourBytes (stream (first :: more) ++ trailer) 36 ≠ fourLetters 'V' 'B' 'R' 'I') :
    ∃ params, ofFile tree path = .ok params ∧
      params.sampleRate = first.header.sampleRate ∧ params.mode = first.header.mode ∧
      (params.vbr = true ↔
        ∃ frame ∈ (first :: more).take 32, frame.header.bitrate ≠ first.header.bitrate) ∧
      params.bitrate =
        if params.vbr then (((first :: more).take 32).map fun frame => frame.header.bitrate).sum /
          min (first :: more).length 32
        else first.header.bitrate := by
  refine ⟨_, ofFile_of_ofBytes? hread (ofBytes?_stream (.inl rfl) htrailer first more), ?_⟩
  have hplain : Plain first.header ((stream (first :: more) ++ trailer).take probeSize) := by
    have hoffset := first.header.xingOffset_le
    have hprobe : countsSize ≤ probeSize := by decide
    simp only [List.mem_cons, List.not_mem_nil, or_false, not_or] at hxing
    refine ⟨?_, ?_, ?_⟩
    · rw [fourBytes_take (by omega)]
      exact hxing.1
    · rw [fourBytes_take (by omega)]
      exact hxing.2
    · rw [fourBytes_take (by decide)]
      exact hvbri
  rw [ofFrame_of_plain hplain, consecutiveBitrates_probe htrailer]
  have hall : ((((first :: more).take sampleFrames).map fun frame => frame.header.bitrate).all
      (· = first.header.bitrate)) = true ↔
        ∀ frame ∈ (first :: more).take 32, frame.header.bitrate = first.header.bitrate := by
    rw [List.all_map, List.all_eq_true]
    exact forall₂_congr fun frame _ => decide_eq_true_iff
  simp only
  split
  · rename_i hsame
    refine ⟨rfl, rfl, ⟨nofun, ?_⟩, rfl⟩
    rintro ⟨frame, hframe, hne⟩
    exact absurd (hall.1 hsame frame hframe) hne
  · rename_i hvaries
    refine ⟨rfl, rfl, ⟨fun _ => ?_, fun _ => rfl⟩, ?_⟩
    · rw [hall] at hvaries
      push Not at hvaries
      exact hvaries
    · rw [if_pos rfl, ← List.sum_eq_foldl, List.length_map, List.length_take, Nat.min_comm]
      rfl

/-- Two frames with different bitrates in front of a tag. -/
theorem ofFile_stream_two_bitrates :
    let slow : Bytes := [0xff, 0xf3, 0x14, 0] ++ List.replicate 20 7
    let fast : Bytes := [0xff, 0xf3, 0x24, 0] ++ List.replicate 44 7
    let trailer : Bytes := [0x54, 0x41, 0x47] ++ List.replicate 125 32
    let tree : FileTree := ⟨[(["a"], .file (slow ++ fast ++ trailer) 0)]⟩
    ofFile tree "a" = .ok ⟨true, 12, 24000, .stereo⟩ := by
  intro slow fast trailer tree
  let first : CompleteFrame := ⟨⟨.two, .III, false, 8, 24000, false, .stereo⟩, slow, rfl, rfl⟩
  let second : CompleteFrame := ⟨⟨.two, .III, false, 16, 24000, false, .stereo⟩, fast, rfl, rfl⟩
  have htrailer : Id3v1.IsTag trailer := ⟨rfl, List.replicate 125 32, rfl⟩
  obtain ⟨params, hok, hrate, hmode, hvbr, hbitrate⟩ := ofFile_stream tree "a" first [second]
    trailer (.inr htrailer) rfl (by decide +kernel) (by decide +kernel)
  have hvaries : params.vbr = true :=
    hvbr.2 ⟨second, List.mem_cons_of_mem _ List.mem_cons_self, by decide⟩
  rw [if_pos hvaries] at hbitrate
  have hparams : params = ⟨true, 12, 24000, .stereo⟩ :=
    AudioParams.eq_iff.2 ⟨hvaries, hbitrate.trans (by decide), hrate, hmode⟩
  rw [hok, hparams]

/-- Tags around a stream do not matter: a file with an ID3v2 tag in front of it and an ID3v1 tag
behind it, each of which may be missing, has parameters, and they are those of a file with the
stream alone. The stream has room for the counts of its first frame. -/
theorem ofFile_tagged_stream (tree : FileTree) (plain tagged : FilePath)
    (frames : List CompleteFrame) (hsize : 54 ≤ (stream frames).length) (tag trailer : Bytes)
    (htag : tag = [] ∨ Id3v2.IsTag tag) (htrailer : trailer = [] ∨ Id3v1.IsTag trailer)
    (hplain : tree.read plain = .ok (stream frames))
    (htagged : tree.read tagged = .ok (tag ++ stream frames ++ trailer)) :
    ∃ params, ofFile tree plain = .ok params ∧ ofFile tree tagged = .ok params := by
  obtain ⟨first, more, rfl⟩ : ∃ first more, frames = first :: more := by
    apply List.exists_cons_of_ne_nil
    rintro rfl
    exact absurd hsize (by decide)
  have hbare : [] ++ (stream (first :: more) ++ []) = stream (first :: more) := List.append_nil _
  rw [← hbare] at hplain
  rw [List.append_assoc] at htagged
  -- both runs start at the first frame, and nothing behind the stream is sampled
  have hcounts : ∀ rest : Bytes, ((stream (first :: more) ++ rest).take probeSize).take countsSize =
      (stream (first :: more)).take countsSize := by
    intro rest
    have hroom : countsSize ≤ (stream (first :: more)).length := hsize
    rw [List.take_take, Nat.min_eq_left (by decide), List.take_append_of_le_length hroom]
  have hsame : ofFrame first.header ((stream (first :: more) ++ trailer).take probeSize) =
      ofFrame first.header ((stream (first :: more) ++ []).take probeSize) := by
    apply ofFrame_congr
    · rw [hcounts, hcounts]
    · rw [consecutiveBitrates_probe htrailer, consecutiveBitrates_probe (.inl rfl)]
  refine ⟨_, ofFile_of_ofBytes? hplain (ofBytes?_stream (.inl rfl) (.inl rfl) first more), ?_⟩
  rw [← hsame]
  exact ofFile_of_ofBytes? htagged (ofBytes?_stream htag htrailer first more)

/-- One frame that carries counts, alone and between tags of both kinds. -/
theorem ofFile_tagged_stream_counts :
    let frame : Bytes := [0xff, 0xfb, 0x18, 0xc4] ++ List.replicate 17 0 ++
      [0x58, 0x69, 0x6e, 0x67, 0, 0, 0, 3, 0, 0, 3, 0xe8, 0, 4, 0x65, 0] ++ List.replicate 107 0
    let tag : Bytes := [0x49, 0x44, 0x33, 4, 0, 0x10, 0, 0, 0, 2, 8, 9] ++ List.replicate 10 1
    let trailer : Bytes := [0x54, 0x41, 0x47] ++ List.replicate 125 32
    let tree : FileTree :=
      ⟨[(["a"], .file frame 0), (["b"], .file (tag ++ frame ++ trailer) 0)]⟩
    54 ≤ frame.length ∧ Id3v2.IsTag tag ∧ Id3v1.IsTag trailer ∧
      ofFile tree "a" = .ok ⟨true, 64, 32000, .mono⟩ ∧
      ofFile tree "b" = .ok ⟨true, 64, 32000, .mono⟩ := by
  intro frame tag trailer tree
  let first : CompleteFrame := ⟨⟨.one, .III, false, 32, 32000, false, .mono⟩, frame, rfl,
    by decide +kernel⟩
  have hbytes : stream [first] = frame := List.append_nil frame
  have hsize : 54 ≤ frame.length := by decide +kernel
  have htag : Id3v2.IsTag tag :=
    ⟨4, 0, 0x10, [8, 9], List.replicate 10 1, rfl, by decide, by decide⟩
  have htrailer : Id3v1.IsTag trailer := ⟨rfl, List.replicate 125 32, rfl⟩
  have hparams : ofFile tree "a" = .ok ⟨true, 64, 32000, .mono⟩ :=
    ofFile_of_ofBytes? (show tree.read "a" = .ok frame from rfl) (by decide +kernel)
  obtain ⟨params, hplain, htagged⟩ := ofFile_tagged_stream tree "a" "b" [first] (hbytes ▸ hsize)
    tag trailer (.inr htag) (.inr htrailer) (hbytes ▸ rfl) (hbytes ▸ rfl)
  obtain rfl := Except.ok.inj (hparams.symm.trans hplain)
  exact ⟨hsize, htag, htrailer, hparams, htagged⟩

end AudioParams

end ClipSplice

import ClipSplice.Proofs.SpliceRun

/-!
# Files of tagged audio

An `AudioFile` is a file as encoders and tag editors leave it: complete frames with at most one
truncated frame behind them, between two tags that may be missing. Its audio span is the complete
frames (`AudioFile.audioSpan_bytes`) and its tags are found as they were written
(`AudioFile.read_bytes`, `AudioFile.ofFile?_bytes`), so that splicing such files strips just their
tags and truncated frames.
-/

namespace ClipSplice

/-- A file of tagged audio. -/
structure AudioFile where
  /-- The ID3v2 tag, if there is one. -/
  tag : Bytes
  /-- The complete frames but for the last one. -/
  frames : List Bytes
  /-- The last complete frame. -/
  last : Bytes
  /-- A truncated frame, if there is one. -/
  fragment : Bytes
  /-- The ID3v1 tag, if there is one. -/
  trailer : Bytes
  isTag : tag = [] ∨ Id3v2.IsTag tag
  isFrame : ∀ frame ∈ frames, IsFrame frame
  endsInFrame : EndsInFrame last fragment
  isTrailer : Id3v1.IsTag trailer ∨
    trailer = [] ∧ ¬ Id3v1.EndsInTag (tag ++ (frames.flatten ++ last) ++ fragment)

namespace AudioFile

/-- The complete frames of a file. -/
def audio (file : AudioFile) : Bytes := file.frames.flatten ++ file.last

/-- The bytes of a file. -/
def bytes (file : AudioFile) : Bytes := file.tag ++ file.audio ++ file.fragment ++ file.trailer

variable (file : AudioFile)

/-! ## The tags -/

/-- The audio starts with the header of its first frame, whatever follows it. -/
theorem isSome_header_audio_append (rest : Bytes) :
    (FrameHeader.ofBytes? (file.audio ++ rest)).isSome := by
  have hfirst : ∀ {frame : Bytes}, IsFrame frame → ∀ rest,
      (FrameHeader.ofBytes? (frame ++ rest)).isSome := by
    rintro frame ⟨header, hheader, -⟩ rest
    rw [FrameHeader.ofBytes?_append (FrameHeader.size_le_of_ofBytes? hheader), hheader]
    rfl
  unfold audio
  cases hframes : file.frames with
  | nil => exact hfirst file.endsInFrame.isFrame rest
  | cons frame frames =>
    have hframe := file.isFrame frame (hframes ▸ List.mem_cons_self)
    rw [List.flatten_cons, List.append_assoc, List.append_assoc]
    exact hfirst hframe _

theorem read_bytes : Id3v2.read file.bytes = file.tag := by
  rw [bytes, List.append_assoc, List.append_assoc]
  exact Id3v2.read_append_audio file.isTag (file.isSome_header_audio_append _)

theorem ofFile?_bytes :
    Id3v1.ofFile? file.bytes = if file.trailer = [] then none else some file.trailer := by
  rcases file.isTrailer with htrailer | ⟨hnil, hnone⟩
  · have hne : file.trailer ≠ [] := fun hnil => by
      have hlength := htrailer.1
      rw [hnil] at hlength
      exact absurd hlength (by decide)
    rw [if_neg hne, bytes, Id3v1.ofFile?_append _ htrailer]
  · rw [if_pos hnil, bytes, hnil, List.append_nil]
    exact Id3v1.ofFile?_eq_none hnone

theorem getD_ofFile?_bytes : (Id3v1.ofFile? file.bytes).getD [] = file.trailer := by
  rw [ofFile?_bytes]
  by_cases hnil : file.trailer = []
  · rw [if_pos hnil, hnil]
    rfl
  · rw [if_neg hnil]
    rfl

/-! ## The audio -/

/-- The corrected end of the audio is the end of the last complete frame. -/
theorem read_bytes_fst : (Id3v1.read file.bytes true).1 = (file.tag ++ file.audio).length := by
  -- before the correction, the audio ends where the trailer starts
  have hnominal : (if (Id3v1.ofFile? file.bytes).isSome then file.bytes.length - Id3v1.size
      else file.bytes.length) = (file.tag ++ file.audio ++ file.fragment).length := by
    have hlength : file.bytes.length =
        (file.tag ++ file.audio ++ file.fragment).length + file.trailer.length := by
      rw [bytes, List.length_append]
    rw [ofFile?_bytes, hlength]
    by_cases hnil : file.trailer = []
    · rw [if_pos hnil, hnil]
      rfl
    · rcases file.isTrailer with htrailer | ⟨hnil', -⟩
      · rw [if_neg hnil, htrailer.1, Option.isSome_some, if_pos rfl, Nat.add_sub_cancel]
      · exact absurd hnil' hnil
  have hsplit : file.tag ++ file.audio ++ file.fragment =
      file.tag ++ file.frames.flatten ++ (file.last ++ file.fragment) := by
    simp only [audio, List.append_assoc]
  simp only [Id3v1.read, if_true, hnominal]
  rw [bytes, hsplit, correctedEnd_append_frame _ file.endsInFrame
    file.endsInFrame.length_le_syncWindow]
  simp only [audio, List.length_append, Nat.add_assoc]

theorem audioSpan_bytes : audioSpan file.bytes = file.audio := by
  simp only [audioSpan, read_bytes, read_bytes_fst]
  rw [bytes, List.append_assoc, List.append_assoc, List.drop_left, List.length_append,
    Nat.add_sub_cancel_left, List.take_left]

end AudioFile

/-! ## Splicing -/

variable {tree : FileTree}

/-- Files that can all be read. -/
theorem FileTree.readAll_map_fst (inputs : List (FilePath × AudioFile))
    (hread : ∀ input ∈ inputs, tree.read input.1 = .ok input.2.bytes) :
    tree.readAll (inputs.map Prod.fst) = (inputs.map fun input => input.2.bytes, none) := by
  induction inputs with
  | nil => rfl
  | cons input inputs ih =>
    have hfirst := hread input List.mem_cons_self
    have hrest := ih fun input hinput => hread input (List.mem_cons_of_mem _ hinput)
    simp only [List.map_cons, FileTree.readAll, hfirst, hrest]

namespace Splice

/-- Splicing files of tagged audio joins their complete frames, between the tags of the tag source
if there is one, and nothing goes wrong. -/
theorem bytesOf_drain_audioFiles (tree : FileTree) (programs : Programs)
    (inputs : List (FilePath × AudioFile)) (source : Option (FilePath × AudioFile))
    (hinputs : ∀ input ∈ inputs, tree.read input.1 = .ok input.2.bytes)
    (hsource : ∀ input ∈ source, tree.read input.1 = .ok input.2.bytes)
    (options : SpliceOptions) (hengine : options.engine = .default)
    (htags : options.tagSource = source.map Prod.fst) (hsize : 0 < options.chunkSize) :
    ∃ s, start tree programs (inputs.map Prod.fst) options = .ok s ∧
      bytesOf (s.drain tree).1 =
        .ok ((source.map fun input => input.2.tag).getD [] ++
          inputs.flatMap (fun input => input.2.audio) ++
          (source.map fun input => input.2.trailer).getD []) := by
  obtain ⟨head, tail, hframing, hhead, htail⟩ : ∃ head tail,
      framingTags tree options.tagSource = .ok (head, tail) ∧
        head = (source.map fun input => input.2.tag).getD [] ∧
        tail.getD [] = (source.map fun input => input.2.trailer).getD [] := by
    rw [htags]
    cases source with
    | none => exact ⟨[], none, rfl, rfl, rfl⟩
    | some input =>
      refine ⟨input.2.tag, _, ?_, rfl, input.2.getD_ofFile?_bytes⟩
      simp only [framingTags, Option.map_some, hsource input rfl, AudioFile.read_bytes]
  have hall := FileTree.readAll_map_fst inputs hinputs
  refine ⟨_, by rw [start_default hengine, hframing], ?_⟩
  rw [drain_eq_pending hsize,
    pending_of_start tree hsize head tail (framingTags_tail_ne hframing),
    bytesOf_eq_chunkBytes (error_notMem_splicedItems (by rw [hall])),
    chunkBytes_splicedItems hsize, hall, hhead]
  simp only [List.flatMap_map, AudioFile.audioSpan_bytes, Option.isNone_none, if_true, htail]

/-- Two short files: one with a tag of both kinds and a truncated frame, the other a lone frame. The
first is the tag source as well. -/
theorem bytesOf_drain_audioFiles_short :
    let frame : Bytes := [0xff, 0xf3, 0x14, 0] ++ List.replicate 20 7
    let tag : Bytes := [0x49, 0x44, 0x33, 4, 0, 0x10, 0, 0, 0, 2, 8, 9] ++ List.replicate 10 1
    let trailer : Bytes := [0x54, 0x41, 0x47] ++ List.replicate 125 32
    let tree : FileTree :=
      ⟨[(["a"], .file (tag ++ frame ++ frame.take 9 ++ trailer) 0), (["b"], .file frame 0)]⟩
    ∃ s, start tree Programs.plain ["a", "b"] ⟨5, some "a", .default⟩ = .ok s ∧
      bytesOf (s.drain tree).1 = .ok (tag ++ (frame ++ frame) ++ trailer) := by
  intro frame tag trailer tree
  have hframe : IsFrame frame := ⟨⟨.two, .III, false, 8, 24000, false, .stereo⟩, rfl, rfl⟩
  have hfragment : IsFragment (frame.take 9) :=
    ⟨frame, hframe, List.take_prefix 9 frame, by decide, by decide⟩
  have htag : Id3v2.IsTag tag :=
    ⟨4, 0, 0x10, [8, 9], List.replicate 10 1, rfl, by decide, by decide⟩
  have htrailer : Id3v1.IsTag trailer := ⟨rfl, List.replicate 125 32, rfl⟩
  have hshort : frame.length < Id3v1.size := by decide
  let tagged : AudioFile := ⟨tag, [], frame, frame.take 9, trailer, .inr htag,
    fun _ hmem => absurd hmem List.not_mem_nil, ⟨hframe, .inr hfragment, by decide, by decide⟩,
    .inl htrailer⟩
  let lone : AudioFile := ⟨[], [], frame, [], [], .inl rfl,
    fun _ hmem => absurd hmem List.not_mem_nil, ⟨hframe, .inl rfl, by decide, by decide⟩,
    .inr ⟨rfl, fun ⟨front, last, hlast, heq⟩ => by
      have hlength : frame.length = front.length + last.length := by
        rw [← List.length_append, ← heq]
        rfl
      rw [hlast.1] at hlength
      omega⟩⟩
  have hinputs : ∀ input ∈ [("a", tagged), ("b", lone)], tree.read input.1 = .ok input.2.bytes := by
    simp only [List.forall_mem_cons, List.not_mem_nil, false_implies, implies_true, and_true]
    exact ⟨rfl, rfl⟩
  have hsource : ∀ input ∈ some ("a", tagged), tree.read input.1 = .ok input.2.bytes :=
    fun input hinput => by cases hinput; exact hinputs _ List.mem_cons_self
  exact bytesOf_drain_audioFiles tree Programs.plain [("a", tagged), ("b", lone)]
    (some ("a", tagged)) hinputs hsource ⟨5, some "a", .default⟩ rfl rfl (by decide)

end Splice

end ClipSplice

import ClipSplice.Proofs.Agreement
import ClipSplice.Proofs.FirstFrames
import ClipSplice.Proofs.TaggedAudio
import ClipSplice.Proofs.WrittenFile

/-!
# The parameters of a spliced file

Splicing files that agree on a constant bitrate gives a file with the parameters that they have
(`Splice.ofFile_writeTo`). The first frame of the spliced file is that of the first file, and every
frame that is sampled there is one of those that are sampled in its own file: the frames before it
in the spliced file are those before it in its own file and perhaps more.
-/

namespace ClipSplice

open AudioParams

/-! ## Files of tagged audio -/

namespace AudioFile

variable (file : AudioFile)

/-- All complete frames of a file. -/
def allFrames : List Bytes := file.frames ++ [file.last]

theorem audio_eq_flatten : file.audio = file.allFrames.flatten := by
  simp [audio, allFrames]

theorem isFrame_of_mem_allFrames : ∀ frame ∈ file.allFrames, IsFrame frame := by
  intro frame hframe
  rcases List.mem_append.1 hframe with h | h
  · exact file.isFrame frame h
  · rw [List.mem_singleton.1 h]
    exact file.endsInFrame.isFrame

/-- The first frame of a file, with its header. -/
theorem exists_first_frame : ∃ frame frames header, file.allFrames = frame :: frames ∧
    FrameHeader.ofBytes? frame = some header ∧ frame.length = header.frameLength := by
  obtain ⟨frame, frames, hframes⟩ : ∃ frame frames, file.allFrames = frame :: frames :=
    List.exists_cons_of_ne_nil (by simp [allFrames])
  obtain ⟨header, hheader, hlength⟩ :=
    file.isFrame_of_mem_allFrames frame (hframes ▸ List.mem_cons_self)
  exact ⟨frame, frames, header, hframes, hheader, hlength⟩

theorem isTrailer_or_nil : file.trailer = [] ∨ Id3v1.IsTag file.trailer :=
  file.isTrailer.symm.imp_left And.left

theorem confirmsFrame_trailer : ConfirmsFrame file.trailer :=
  confirmsFrame_of_trailer file.isTrailer_or_nil

theorem ofBytes?_trailer : FrameHeader.ofBytes? file.trailer = none :=
  ofBytes?_of_trailer file.isTrailer_or_nil

/-- Behind the complete frames stands a truncated frame, the trailer or the end. -/
theorem confirmsFrame_behind : ConfirmsFrame (file.fragment ++ file.trailer) := by
  rcases file.endsInFrame.isFragment with hnil | hfragment
  · rw [hnil, List.nil_append]
    exact file.confirmsFrame_trailer
  · obtain ⟨header, hheader, -⟩ := hfragment.exists_header
    refine .inr (.inr ?_)
    rw [FrameHeader.ofBytes?_append (FrameHeader.size_le_of_ofBytes? hheader), hheader]
    rfl

theorem bytes_eq : file.bytes = file.tag ++ (file.audio ++ (file.fragment ++ file.trailer)) := by
  simp only [bytes, List.append_assoc]

theorem audio_isInfix : file.audio <:+: file.bytes :=
  ⟨file.tag, file.fragment ++ file.trailer, by rw [bytes_eq, List.append_assoc]⟩

theorem trailer_isInfix : file.trailer <:+: file.bytes :=
  ⟨file.tag ++ file.audio ++ file.fragment, [], by rw [List.append_nil]; rfl⟩

/-- The parameters of a file, or of other audio that starts with its frames. -/
theorem ofBytes?_audio {tag rest : Bytes} (htag : tag = [] ∨ Id3v2.IsTag tag)
    (hrest : ConfirmsFrame rest) : ∃ header, FrameHeader.ofBytes? file.audio = some header ∧
      ofBytes? (tag ++ (file.audio ++ rest)) =
        some (ofFrame header ((file.audio ++ rest).take probeSize)) := by
  obtain ⟨frame, frames, header, hframes, hheader, hlength⟩ := file.exists_first_frame
  have hall := file.isFrame_of_mem_allFrames
  rw [hframes] at hall
  have hmore : ∀ frame ∈ frames, IsFrame frame := fun other hother =>
    hall other (List.mem_cons_of_mem _ hother)
  refine ⟨header, ?_, ?_⟩
  · rw [audio_eq_flatten, hframes, List.flatten_cons,
      FrameHeader.ofBytes?_append (FrameHeader.size_le_of_ofBytes? hheader), hheader]
  · rw [audio_eq_flatten, hframes, List.flatten_cons, List.append_assoc]
    exact ofBytes?_frames htag hheader hlength (confirmsFrame_frames hmore hrest)

variable {file} {params : AudioParams}

/-- What the parameters of a file with a constant bitrate say about its frames. -/
theorem sampledAt_of_ofBytes? (hunmarked : Unmarked file.bytes)
    (hparams : ofBytes? file.bytes = some params) (hvbr : params.vbr = false) :
    ∃ header, FrameHeader.ofBytes? file.audio = some header ∧
      params = ⟨false, header.bitrate, header.sampleRate, header.mode⟩ ∧
      SampledAt params.bitrate sampleFrames
        (file.audio ++ (file.fragment ++ file.trailer)) := by
  obtain ⟨header, hheader, hfound⟩ :=
    file.ofBytes?_audio file.isTag file.confirmsFrame_behind
  rw [← bytes_eq, hparams] at hfound
  have hparams' := Option.some.inj hfound
  have hprobe : Unmarked ((file.audio ++ (file.fragment ++ file.trailer)).take probeSize) := by
    refine hunmarked.of_part ((List.take_prefix _ _).isInfix.trans ?_)
    rw [bytes_eq]
    exact (List.suffix_append _ _).isInfix
  have hsampled := sampledAt_of_ofFrame hprobe (hparams' ▸ hvbr)
  have hplain := hparams'.trans (ofFrame_of_sampledAt hprobe hsampled)
  refine ⟨header, hheader, hplain, ?_⟩
  rw [hplain]
  exact sampledAt_take_probeSize.1 hsampled

end AudioFile

/-! ## Spliced audio -/

section

variable {files : List AudioFile} {tail : Bytes}

theorem confirmsFrame_flatMap_audio (files : List AudioFile) (htail : ConfirmsFrame tail) :
    ConfirmsFrame (files.flatMap AudioFile.audio ++ tail) := by
  cases files with
  | nil => exact htail
  | cons file files =>
    rw [List.flatMap_cons, List.append_assoc]
    exact .inr (.inr (file.isSome_header_audio_append _))

theorem unmarked_flatMap_audio (hfiles : ∀ file ∈ files, Unmarked file.bytes)
    (htail : Unmarked tail) (hconfirms : ConfirmsFrame tail) :
    Unmarked (files.flatMap AudioFile.audio ++ tail) := by
  induction files with
  | nil => exact htail
  | cons file files ih =>
    obtain ⟨hfile, hrest⟩ := List.forall_mem_cons.1 hfiles
    rw [List.flatMap_cons, List.append_assoc]
    exact (hfile.of_part file.audio_isInfix).append (ih hrest)
      (confirmsFrame_flatMap_audio files hconfirms)

/-- The frames of each file that are sampled behind others are sampled in their own file. -/
theorem sampledAt_flatMap_audio {bitrate count : Nat}
    (hfiles : ∀ file ∈ files, SampledAt bitrate count
      (file.audio ++ (file.fragment ++ file.trailer)))
    (htail : SampledAt bitrate count tail) :
    SampledAt bitrate count (files.flatMap AudioFile.audio ++ tail) := by
  induction files with
  | nil => exact htail
  | cons file files ih =>
    obtain ⟨hfile, hrest⟩ := List.forall_mem_cons.1 hfiles
    rw [AudioFile.audio_eq_flatten] at hfile
    rw [List.flatMap_cons, List.append_assoc, AudioFile.audio_eq_flatten]
    exact sampledAt_frames file.isFrame_of_mem_allFrames hfile (ih hrest)

/-- Joined audio with a tag in front and something quiet behind has the parameters of its files. -/
theorem AudioParams.ofBytes?_joined (first : AudioFile) {tag : Bytes} {params : AudioParams}
    (hunmarked : ∀ file ∈ first :: files, Unmarked file.bytes)
    (hparams : ∀ file ∈ first :: files, ofBytes? file.bytes = some params)
    (hvbr : params.vbr = false) (htag : tag = [] ∨ Id3v2.IsTag tag)
    (htail : Unmarked tail) (hconfirms : ConfirmsFrame tail)
    (hquiet : FrameHeader.ofBytes? tail = none) :
    ofBytes? (tag ++ ((first :: files).flatMap AudioFile.audio ++ tail)) = some params := by
  obtain ⟨header, hheader, hplain, -⟩ := AudioFile.sampledAt_of_ofBytes?
    (hunmarked first List.mem_cons_self) (hparams first List.mem_cons_self) hvbr
  -- the spliced file starts with the first frame of the first file
  obtain ⟨header', hheader', hfound⟩ := first.ofBytes?_audio htag
    (confirmsFrame_flatMap_audio files hconfirms)
  obtain rfl : header = header' := Option.some.inj (hheader.symm.trans hheader')
  have hsampled : SampledAt params.bitrate sampleFrames
      ((first :: files).flatMap AudioFile.audio ++ tail) := by
    refine sampledAt_flatMap_audio (fun file hfile => ?_) ?_
    · exact (AudioFile.sampledAt_of_ofBytes? (hunmarked file hfile) (hparams file hfile)
        hvbr).choose_spec.2.2
    · rw [SampledAt, consecutiveBitrates_of_none hquiet]
      exact nofun
  have hprobe : Unmarked (((first :: files).flatMap AudioFile.audio ++ tail).take probeSize) :=
    (unmarked_flatMap_audio hunmarked htail hconfirms).of_part (List.take_prefix _ _).isInfix
  rw [List.flatMap_cons, List.append_assoc] at hsampled hprobe ⊢
  rw [hplain] at hsampled
  rw [hfound, ofFrame_of_sampledAt hprobe (sampledAt_take_probeSize.2 hsampled), hplain]

end

/-! ## Splicing -/

namespace Splice

variable {tree : FileTree} {options : SpliceOptions}

/-- The tags of a file of tagged audio frame a splice as they are. -/
theorem framingTags_audioFile {source : Option (FilePath × AudioFile)}
    (hsource : ∀ input ∈ source, tree.read input.1 = .ok input.2.bytes) :
    ∃ tail, framingTags tree (source.map Prod.fst) =
        .ok ((source.map fun input => input.2.tag).getD [], tail) ∧
      tail.getD [] = (source.map fun input => input.2.trailer).getD [] := by
  cases source with
  | none => exact ⟨none, rfl, rfl⟩
  | some input =>
    refine ⟨_, ?_, input.2.getD_ofFile?_bytes⟩
    simp only [framingTags, Option.map_some, hsource input rfl, AudioFile.read_bytes,
      Option.getD_some]

/-- The tags that frame a splice, seen as the start and the end of a file. -/
theorem framing_audioFile {source : Option (FilePath × AudioFile)}
    (hunmarked : ∀ input ∈ source, Unmarked input.2.bytes) :
    let head := (source.map fun input => input.2.tag).getD []
    let tail := (source.map fun input => input.2.trailer).getD []
    (head = [] ∨ Id3v2.IsTag head) ∧ Unmarked tail ∧ ConfirmsFrame tail ∧
      FrameHeader.ofBytes? tail = none := by
  cases source with
  | none => exact ⟨.inl rfl, by decide, .inl rfl, rfl⟩
  | some input =>
    exact ⟨input.2.isTag, (hunmarked input rfl).of_part input.2.trailer_isInfix,
      input.2.confirmsFrame_trailer, input.2.ofBytes?_trailer⟩

/-- Files of tagged audio that agree on their parameters, the first one without a variable bitrate
and none with a marked block, are spliced into a file with the same parameters. The file is written
wherever a file can be put. -/
theorem ofFile_writeTo (tree : FileTree) (programs : Programs) (first : FilePath × AudioFile)
    (rest : List (FilePath × AudioFile)) (source : Option (FilePath × AudioFile))
    (hinputs : ∀ input ∈ first :: rest, tree.read input.1 = .ok input.2.bytes)
    (hunmarked : ∀ input ∈ first :: rest, Unmarked input.2.bytes)
    (hsource : ∀ input ∈ source, tree.read input.1 = .ok input.2.bytes)
    (hsourceUnmarked : ∀ input ∈ source, Unmarked input.2.bytes)
    (hagree : checkAgreement tree ((first :: rest).map Prod.fst) = .ok ()) (params : AudioParams)
    (hparams : ofFile tree first.1 = .ok params) (hvbr : params.vbr = false)
    (options : SpliceOptions) (hengine : options.engine = .default)
    (htags : options.tagSource = source.map Prod.fst) (hsize : 0 < options.chunkSize) :
    ∃ s, start tree programs ((first :: rest).map Prod.fst) options = .ok s ∧
      ∀ target time,
        (tree.Writable target → ∃ count tree', s.writeTo tree target time = (.ok count, tree')) ∧
        ∀ count tree', s.writeTo tree target time = (.ok count, tree') →
          ofFile tree' target = .ok params := by
  obtain ⟨tail, hframing, htail⟩ := framingTags_audioFile hsource
  rw [← htags] at hframing
  obtain ⟨s, hstart, hcontent⟩ := bytesOf_drain_default programs hengine hsize
    hframing (FileTree.readAll_map_fst (first :: rest) hinputs)
  have hquiet : ∀ file ∈ (first :: rest).map Prod.snd, Unmarked file.bytes :=
    List.forall_mem_map.2 hunmarked
  have hcommon : ∀ file ∈ (first :: rest).map Prod.snd, ofBytes? file.bytes = some params :=
    List.forall_mem_map.2 fun input hinput => ofBytes?_of_ofFile (hinputs input hinput)
      (ofFile_of_checkAgreement hagree hparams _ (List.mem_map_of_mem hinput))
  obtain ⟨htag, htrailer, hconfirms, hend⟩ := framing_audioFile hsourceUnmarked
  have hjoined := AudioParams.ofBytes?_joined first.2 hquiet hcommon hvbr htag htrailer hconfirms
    hend
  have hbytes : (source.map fun input => input.2.tag).getD [] ++
      ((first :: rest).map fun input => input.2.bytes).flatMap audioSpan ++ tail.getD [] =
      (source.map fun input => input.2.tag).getD [] ++
        (((first :: rest).map Prod.snd).flatMap AudioFile.audio ++
          (source.map fun input => input.2.trailer).getD []) := by
    simp only [List.flatMap_map, AudioFile.audioSpan_bytes, htail, List.append_assoc]
  rw [hbytes] at hcontent
  exact ⟨s, hstart, fun target time => ⟨exists_writeTo hcontent, fun count tree' hwrite =>
    ofFile_of_ofBytes? (read_of_writeTo hcontent hwrite) hjoined⟩⟩

/-- Two files of one short frame each, the first of them with a tag of both kinds and a truncated
frame. It is the tag source as well. -/
theorem ofFile_writeTo_short :
    let frame : Bytes := [0xff, 0xf3, 0x14, 0] ++ List.replicate 20 7
    let tag : Bytes := [0x49, 0x44, 0x33, 4, 0, 0x10, 0, 0, 0, 2, 8, 9] ++ List.replicate 10 1
    let trailer : Bytes := [0x54, 0x41, 0x47] ++ List.replicate 125 32
    let tree : FileTree :=
      ⟨[(["a"], .file (tag ++ frame ++ frame.take 9 ++ trailer) 0), (["b"], .file frame 0)]⟩
    ∃ s, start tree Programs.plain ["a", "b"] ⟨5, some "a", .default⟩ = .ok s ∧
      ∃ count tree', s.writeTo tree "c" 0 = (.ok count, tree') ∧
        ofFile tree' "c" = .ok ⟨false, 8, 24000, .stereo⟩ := by
  intro frame tag trailer tree
  have hframe : IsFrame frame := ⟨⟨.two, .III, false, 8, 24000, false, .stereo⟩, rfl, rfl⟩
  have hfragment : IsFragment (frame.take 9) :=
    ⟨frame, hframe, List.take_prefix 9 frame, by decide, by decide⟩
  have htag : Id3v2.IsTag tag :=
    ⟨4, 0, 0x10, [8, 9], List.replicate 10 1, rfl, by decide, by decide⟩
  have htrailer : Id3v1.IsTag trailer := ⟨rfl, List.replicate 125 32, rfl⟩
  have hshort : frame.length < Id3v1.size := by decide
  let tagged : AudioFile := ⟨tag, [], frame, frame.take 9, trailer, .inr htag,
    fun _ hmem => absurd hmem List.not_mem_nil, ⟨hframe, .inr hfragment, by decide, by decide⟩,
    .inl htrailer⟩
  let lone : AudioFile := ⟨[], [], frame, [], [], .inl rfl,
    fun _ hmem => absurd hmem List.not_mem_nil, ⟨hframe, .inl rfl, by decide, by decide⟩,
    .inr ⟨rfl, fun ⟨front, last, hlast, heq⟩ => by
      have hlength : frame.length = front.length + last.length := by
        rw [← List.length_append, ← heq]
        rfl
      rw [hlast.1] at hlength
      omega⟩⟩
  have hinputs : ∀ input ∈ [("a", tagged), ("b", lone)], tree.read input.1 = .ok input.2.bytes := by
    simp only [List.forall_mem_cons, List.not_mem_nil, false_implies, implies_true, and_true]
    exact ⟨rfl, rfl⟩
  have hquiet : Unmarked (tag ++ frame ++ frame.take 9 ++ trailer) ∧ Unmarked frame := by
    decide +kernel
  have hparams : ofBytes? (tag ++ frame ++ frame.take 9 ++ trailer) =
      some ⟨false, 8, 24000, .stereo⟩ ∧ ofBytes? frame = some ⟨false, 8, 24000, .stereo⟩ := by
    decide +kernel
  have hunmarked : ∀ input ∈ [("a", tagged), ("b", lone)], Unmarked input.2.bytes := by
    simp only [List.forall_mem_cons, List.not_mem_nil, false_implies, implies_true, and_true]
    exact hquiet
  have hfirst : ∀ input ∈ some ("a", tagged), input ∈ [("a", tagged), ("b", lone)] :=
    fun input hinput => by cases hinput; exact List.mem_cons_self
  have htagged : ofFile tree "a" = .ok ⟨false, 8, 24000, .stereo⟩ :=
    ofFile_of_ofBytes? (show tree.read "a" = .ok _ from rfl) hparams.1
  have hlone : ofFile tree "b" = .ok ⟨false, 8, 24000, .stereo⟩ :=
    ofFile_of_ofBytes? (show tree.read "b" = .ok _ from rfl) hparams.2
  have hagree : checkAgreement tree ["a", "b"] = .ok () := by
    simp only [checkAgreement, agreeWith, htagged, hlone]
    rfl
  have hwritable : tree.Writable "c" := ⟨rfl, _, rfl⟩
  obtain ⟨s, hstart, hresult⟩ := ofFile_writeTo tree Programs.plain ("a", tagged) [("b", lone)]
    (some ("a", tagged)) hinputs hunmarked (fun input hinput => hinputs input (hfirst input hinput))
    (fun input hinput => hunmarked input (hfirst input hinput)) hagree _ htagged rfl
    ⟨5, some "a", .default⟩ rfl rfl (by decide)
  obtain ⟨count, tree', hwrite⟩ := (hresult "c" 0).1 hwritable
  exact ⟨s, hstart, count, tree', hwrite, (hresult "c" 0).2 count tree' hwrite⟩

end Splice

end ClipSplice

import ClipSplice.Proofs.SpliceRun
import ClipSplice.Proofs.TagReading

/-!
# Splicing a file with its own tags

Head, audio and tail of such a splice are three parts of one file. The audio starts where the head
ends and never reaches into the tail. Whether the head does depends on what its header announces:
where the two tags do not overlap, the splice is the file with some bytes left out, and where they
do, the bytes that both of them have come twice (`Splice.bytesOf_drain_ownTags`).
-/

namespace ClipSplice

/-! ## Parts of a file -/

/-- Three parts of a file in order, of which the first two adjoin, are the file with some bytes left
out. -/
theorem sublist_of_parts (file : Bytes) {a b c : Nat} (hab : a ≤ b) (hbc : b ≤ c) :
    (file.extract 0 a ++ file.extract a b ++ file.extract c file.length).Sublist file := by
  have hfront : file.extract 0 a ++ file.extract a b = file.take b := by
    simp only [List.extract_eq_take_drop, List.drop_zero, Nat.sub_zero]
    rw [← List.take_add, Nat.add_sub_cancel' hab]
  have hback : (file.extract c file.length).Sublist (file.drop b) := by
    rw [List.extract_eq_take_drop]
    exact (List.take_sublist _ _).trans (List.drop_sublist_drop_left file hbc)
  rw [hfront]
  calc (file.take b ++ file.extract c file.length).Sublist (file.take b ++ file.drop b) :=
        List.Sublist.append_left hback _
    _ = file := List.take_append_drop b file

theorem length_parts (file : Bytes) {a b c : Nat} (ha : a ≤ file.length) (hab : a ≤ b)
    (hb : b ≤ file.length) (hc : c ≤ file.length) :
    (file.extract 0 a ++ file.extract a b ++ file.extract c file.length).length =
      b + (file.length - c) := by
  simp only [List.length_append, List.extract_eq_take_drop, List.length_take, List.length_drop]
  omega

/-! ## The parts of a splice -/

namespace Id3v1

variable (file : Bytes)

theorem length_getD_ofFile? :
    ((ofFile? file).getD []).length = if (ofFile? file).isSome then size else 0 := by
  cases htag : ofFile? file with
  | none => rfl
  | some tag => exact length_of_ofFile? htag

/-- The tag, if there is one, is the end of the file. -/
theorem getD_ofFile?_eq_extract :
    (ofFile? file).getD [] =
      file.extract (file.length - ((ofFile? file).getD []).length) file.length := by
  rw [length_getD_ofFile?, List.extract_eq_take_drop,
    List.take_of_length_le (by rw [List.length_drop])]
  cases htag : ofFile? file with
  | none => exact (List.drop_length).symm
  | some tag => exact (ofFile?_eq_some_iff.1 htag).2.1

/-- The audio ends in front of the tag. -/
theorem read_fst_le_sub :
    (read file true).1 ≤ file.length - ((ofFile? file).getD []).length := by
  have hstop : (read file true).1 ≤ if (ofFile? file).isSome then file.length - size
      else file.length := read_fst_le file true
  rw [length_getD_ofFile?]
  split at hstop
  · rename_i hsome
    rw [if_pos hsome]
    exact hstop
  · rename_i hnone
    rw [if_neg hnone]
    exact hstop

end Id3v1

/-- The audio starts where the ID3v2 tag ends, even if its corrected end lies in front of that. -/
theorem audioSpan_eq_extract (file : Bytes) :
    let start := (Id3v2.read file).length
    audioSpan file = file.extract start (max start (Id3v1.read file true).1) := by
  intro start
  rw [List.extract_eq_take_drop]
  have hsize : max start (Id3v1.read file true).1 - start = (Id3v1.read file true).1 - start := by
    omega
  rw [hsize]
  rfl

namespace Splice

variable {tree : FileTree} {path : FilePath} {file : Bytes}

theorem bytesOf_drain_single (programs : Programs) (hread : tree.read path = .ok file)
    {options : SpliceOptions} (hengine : options.engine = .default)
    (hsource : options.tagSource = some path) (hsize : 0 < options.chunkSize) :
    ∃ s, start tree programs [path] options = .ok s ∧
      bytesOf (s.drain tree).1 =
        .ok (Id3v2.read file ++ audioSpan file ++ (Id3v1.ofFile? file).getD []) := by
  have hframing : framingTags tree options.tagSource =
      .ok (Id3v2.read file, Id3v1.ofFile? file) := by
    rw [hsource]
    simp only [framingTags, hread]
  have hfiles : tree.readAll [path] = ([file], none) := by
    simp only [FileTree.readAll, hread]
  obtain ⟨s, hstart, hbytes⟩ := bytesOf_drain_default programs hengine hsize hframing hfiles
  refine ⟨s, hstart, ?_⟩
  rw [hbytes, List.flatMap_singleton]

/-- The splice of a single file that is its own tag source is its ID3v2 tag, what follows it up to
some place, and its ID3v1 tag. Where the first tag ends in front of the second one, or where there
is none of these, so does the audio, and the splice is the file with some bytes left out. Otherwise
there is no audio, the bytes that both tags have come twice, and the splice is longer than the
file. -/
theorem bytesOf_drain_ownTags (tree : FileTree) (programs : Programs) {path : FilePath}
    {file : Bytes} (hread : tree.read path = .ok file) (size : Nat) :
    let options := SpliceOptions.withChunkSize { tagSource := some path } size
    let a := (Id3v2.read file).length
    let c := file.length - ((Id3v1.ofFile? file).getD []).length
    ∃ s b, start tree programs [path] options = .ok s ∧
      let output := file.extract 0 a ++ file.extract a b ++ file.extract c file.length
      bytesOf (s.drain tree).1 = .ok output ∧ a ≤ b ∧ b ≤ max a c ∧
        (a ≤ c → b ≤ c ∧ output.Sublist file) ∧
        (c < a → output.length = file.length + (a - c)) := by
  intro options a c
  have hchunk : 0 < options.chunkSize := Nat.lt_of_lt_of_le Nat.zero_lt_one (Nat.le_max_right _ _)
  obtain ⟨s, hstart, hbytes⟩ := bytesOf_drain_single programs hread rfl rfl hchunk
  have htag : Id3v2.read file = file.extract 0 a := by
    rw [List.extract_eq_take_drop]
    exact (Id3v2.take_length_read file).symm
  have ha : a ≤ file.length := Id3v2.length_read_le file
  have hc : c ≤ file.length := Nat.sub_le _ _
  have hstop : (Id3v1.read file true).1 ≤ c := Id3v1.read_fst_le_sub file
  generalize hb : max a (Id3v1.read file true).1 = b at hstop
  have hspan : audioSpan file = file.extract a b := hb ▸ audioSpan_eq_extract file
  rw [htag, hspan, Id3v1.getD_ofFile?_eq_extract] at hbytes
  refine ⟨s, b, hstart, hbytes, ?_, ?_, ?_, ?_⟩
  · omega
  · omega
  · intro hac
    have hbc : b ≤ c := by omega
    exact ⟨hbc, sublist_of_parts file (by omega) hbc⟩
  · intro hca
    -- the audio ends in front of the second tag, so there is none behind the first one
    have hba : b = a := by omega
    rw [length_parts file ha (by omega) (by omega) hc]
    omega

/-- A file of one frame with a truncated one behind it, between two tags: the truncated frame is left
out. -/
theorem bytesOf_drain_ownTags_short :
    let frame : Bytes := [0xff, 0xf3, 0x14, 0] ++ List.replicate 20 7
    let file : Bytes := Id3v2.headerBytes 4 0 0 2 ++ [8, 9] ++ frame ++ frame.take 9 ++
      (Id3v1.marker ++ List.replicate 125 32)
    let tree : FileTree := ⟨[(["a"], .file file 0)]⟩
    tree.read "a" = .ok file ∧
      ∃ s output, start tree Programs.plain ["a"]
          (SpliceOptions.withChunkSize { tagSource := some "a" } 5) = .ok s ∧
        bytesOf (s.drain tree).1 = .ok output ∧ output.Sublist file := by
  intro frame file tree
  have hread : tree.read "a" = .ok file := rfl
  obtain ⟨s, b, hstart, hbytes, -, -, hapart, -⟩ :=
    bytesOf_drain_ownTags tree Programs.plain hread 5
  exact ⟨hread, s, _, hstart, hbytes, (hapart (by decide +kernel)).2⟩

/-- A header that announces more than stands in front of the tag at the end of the file: the whole
file is the ID3v2 tag, the ID3v1 tag comes once more behind it, and no parts of the file in order
make up the splice. -/
theorem bytesOf_drain_ownTags_overlap :
    let trailer : Bytes := Id3v1.marker ++ List.replicate 125 32
    let file : Bytes := Id3v2.headerBytes 3 0 0 128 ++ trailer
    let tree : FileTree := ⟨[(["a"], .file file 0)]⟩
    ∃ s, start tree Programs.plain ["a"]
        (SpliceOptions.withChunkSize { tagSource := some "a" } 64) = .ok s ∧
      bytesOf (s.drain tree).1 = .ok (file ++ trailer) ∧
      ¬ ∃ a b c, a ≤ b ∧ b ≤ c ∧
        file ++ trailer = file.extract 0 a ++ file.extract a b ++ file.extract c file.length := by
  intro trailer file tree
  have hlength : trailer.length = 128 := rfl
  have htag : Id3v2.IsTag file :=
    Id3v2.isTag_of_not_flagged rfl (by rw [hlength]; decide : trailer.length < 2 ^ 28)
  have hhead : Id3v2.read file = file := by
    have hread := htag.read_append []
    rwa [List.append_nil, if_neg (by decide), List.append_nil] at hread
  have htail : Id3v1.ofFile? file = some trailer :=
    Id3v1.ofFile?_append _ ⟨rfl, List.replicate 125 32, rfl⟩
  have hspan : audioSpan file = [] := by
    rw [audioSpan, hhead, List.drop_length, List.take_nil]
  have hread : tree.read "a" = .ok file := rfl
  obtain ⟨s, hstart, hbytes⟩ := bytesOf_drain_single Programs.plain hread
    (rfl : (SpliceOptions.withChunkSize { tagSource := some "a" } 64).engine = .default) rfl
    (by decide)
  rw [hhead, htail, hspan, List.append_nil, Option.getD_some] at hbytes
  refine ⟨s, hstart, hbytes, ?_⟩
  rintro ⟨a, b, c, hab, hbc, hparts⟩
  have hle := (sublist_of_parts file hab hbc).length_le
  rw [← hparts, List.length_append] at hle
  omega

end Splice

end ClipSplice

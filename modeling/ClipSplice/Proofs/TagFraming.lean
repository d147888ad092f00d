import ClipSplice.Audio.Tag
import ClipSplice.Proofs.LastFrame
import Mathlib

/-!
# Tags around audio

`Id3v2.IsTag` and `Id3v1.IsTag` tell what a well-formed tag is, through the bytes that a writer of
tags puts down. A tag with audio behind it is read back as it is (`Id3v2.read_append_audio`), and
whether a file ends in an ID3v1 tag is decided by its last bytes (`Id3v1.ofFile?_append`).
-/

namespace ClipSplice

namespace Id3v2

/-! ## What is read of any file -/

/-- An ID3v2 tag is what its file starts with. -/
theorem take_length_read (file : Bytes) : file.take (read file).length = read file := by
  unfold read
  split
  · rfl
  · rw [List.length_take, List.take_eq_take_iff]
    omega

theorem length_read_le (file : Bytes) : (read file).length ≤ file.length := by
  rw [← take_length_read]
  exact List.length_take_le' _ _

/-! ## Footers that are not flagged -/

/-- Looking at the window is enough. -/
theorem showsFooter_take (rest : Bytes) :
    showsFooter (rest.take syncWindow) = showsFooter rest := by
  unfold showsFooter
  rw [FrameHeader.ofBytes?_take (by decide), List.drop_take, FrameHeader.ofBytes?_take (by decide)]

theorem showsFooter_of_isSome {rest : Bytes} (h : (FrameHeader.ofBytes? rest).isSome) :
    showsFooter rest = false := by
  rw [showsFooter, Option.isNone_eq_false_iff.2 h, Bool.false_and]

/-- The tag that some bytes start with has the announced length, or ten bytes more. -/
theorem read_of_announcedSize? {bytes : Bytes} {announced : Nat}
    (h : announcedSize? bytes = some announced) :
    read bytes =
      bytes.take (announced + if showsFooter (bytes.drop announced) then headerSize else 0) := by
  simp only [read, h, showsFooter_take]

/-! ## Writing tags -/

/-- Whether the flags of a tag announce a footer. -/
def footerFlagged (flags : UInt8) : Bool := flags.toNat.testBit 4

/-- A number in four bytes of seven bits each, the most significant first. -/
def synchsafeBytes (n : Nat) : Bytes :=
  [(n / 2 ^ 21 % 2 ^ 7).toUInt8, (n / 2 ^ 14 % 2 ^ 7).toUInt8, (n / 2 ^ 7 % 2 ^ 7).toUInt8,
    (n % 2 ^ 7).toUInt8]

/-- The header of a tag whose body has `n` bytes. -/
def headerBytes (major minor flags : UInt8) (n : Nat) : Bytes :=
  marker ++ [major, minor, flags] ++ synchsafeBytes n

/-- Some bytes are a tag: a header, the body of the length that the header announces, and a footer
just when the flags announce one. -/
def IsTag (tag : Bytes) : Prop :=
  ∃ (major minor flags : UInt8) (body footer : Bytes),
    tag = headerBytes major minor flags body.length ++ body ++ footer ∧ body.length < 2 ^ 28 ∧
      footer.length = if footerFlagged flags then headerSize else 0

/-! ## Reading them back -/

/-- Four bytes of seven bits give back every number below 2 ^ 28. -/
theorem synchsafe_synchsafeBytes {n : Nat} (hn : n < 2 ^ 28) :
    synchsafe (synchsafeBytes n) = n := by
  simp only [synchsafe, synchsafeBytes, List.foldl_cons, List.foldl_nil, Nat.toUInt8,
    UInt8.toNat_ofNat']
  omega

theorem announcedSize?_headerBytes (major minor flags : UInt8) {n : Nat} (hn : n < 2 ^ 28)
    (rest : Bytes) :
    announcedSize? (headerBytes major minor flags n ++ rest) =
      some (headerSize + n + if footerFlagged flags then headerSize else 0) := by
  have hnumber := synchsafe_synchsafeBytes hn
  have hflag : (flags.toNat / 16 % 2 = 1) = (footerFlagged flags = true) := by
    rw [footerFlagged, Nat.testBit_eq_decide_div_mod_eq, decide_eq_true_eq]
  simp only [headerBytes, marker, List.cons_append, List.nil_append, synchsafeBytes,
    announcedSize?, if_true, hflag] at hnumber ⊢
  rw [hnumber]

/-- A header of a frame is no marker of a tag. -/
theorem announcedSize?_of_isSome {bytes : Bytes} (h : (FrameHeader.ofBytes? bytes).isSome) :
    announcedSize? bytes = none := by
  obtain ⟨header, hheader⟩ := Option.isSome_iff_exists.1 h
  have hhead := FrameHeader.head?_of_ofBytes? hheader
  unfold announcedSize?
  split
  · rename_i i d three _ _ _ _ _ _ _ _
    rw [List.head?_cons, Option.some.injEq] at hhead
    rw [hhead, if_neg (by simp [marker])]
  · rfl

/-- Without a tag in front of the audio nothing is read. -/
theorem read_audio {audio : Bytes} (haudio : (FrameHeader.ofBytes? audio).isSome) :
    read audio = [] := by
  rw [read, announcedSize?_of_isSome haudio]

/-- A tag announces its own length. -/
theorem IsTag.announcedSize?_append {tag : Bytes} (htag : IsTag tag) (rest : Bytes) :
    announcedSize? (tag ++ rest) = some tag.length := by
  obtain ⟨major, minor, flags, body, footer, rfl, hbody, hfooter⟩ := htag
  have hlength : (headerBytes major minor flags body.length ++ body ++ footer).length =
      headerSize + body.length + if footerFlagged flags then headerSize else 0 := by
    rw [List.length_append, List.length_append, hfooter]
    rfl
  rw [List.append_assoc, List.append_assoc, announcedSize?_headerBytes major minor flags hbody,
    hlength]

/-- A tag is read as it is, with ten more bytes where those behind it show that its footer was not
flagged. -/
theorem IsTag.read_append {tag : Bytes} (htag : IsTag tag) (rest : Bytes) :
    read (tag ++ rest) = tag ++ if showsFooter rest then rest.take headerSize else [] := by
  rw [read_of_announcedSize? (htag.announcedSize?_append rest), List.drop_left]
  split
  · exact List.take_length_add_append headerSize
  · rw [Nat.add_zero, List.take_left, List.append_nil]

/-- A tag in front of audio is read as it is. -/
theorem read_append_audio {tag audio : Bytes} (htag : tag = [] ∨ IsTag tag)
    (haudio : (FrameHeader.ofBytes? audio).isSome) : read (tag ++ audio) = tag := by
  rcases htag with rfl | htag
  · exact read_audio haudio
  · -- a frame starts where the tag ends, so no footer is added to it
    rw [htag.read_append, showsFooter_of_isSome haudio, if_neg Bool.false_ne_true, List.append_nil]

end Id3v2

namespace Id3v1

/-- Some bytes are a tag: 128 bytes that start with the marker. -/
def IsTag (tag : Bytes) : Prop := tag.length = size ∧ marker <+: tag

/-- The last 128 bytes of some bytes are a tag. -/
def EndsInTag (bytes : Bytes) : Prop := ∃ front tag, IsTag tag ∧ bytes = front ++ tag

theorem length_of_ofFile? {file tag : Bytes} (h : ofFile? file = some tag) :
    tag.length = size := by
  simp only [ofFile?] at h
  split at h
  · rename_i hlast
    obtain rfl := Option.some.inj h
    rw [List.length_drop]
    omega
  · cases h

theorem ofFile?_append (front : Bytes) {tag : Bytes} (htag : IsTag tag) :
    ofFile? (front ++ tag) = some tag := by
  obtain ⟨hlength, hmarker⟩ := htag
  have hlast : (front ++ tag).drop ((front ++ tag).length - size) = tag := by
    rw [List.length_append, hlength, Nat.add_sub_cancel, List.drop_left]
  have hsize : size ≤ (front ++ tag).length := by
    rw [List.length_append]
    omega
  simp only [ofFile?, hlast, List.isPrefixOf_iff_prefix.2 hmarker, hsize, and_self, if_true]

theorem ofFile?_eq_none {file : Bytes} (hfile : ¬ EndsInTag file) : ofFile? file = none := by
  simp only [ofFile?]
  refine if_neg fun ⟨hsize, hmarker⟩ => hfile ?_
  refine ⟨file.take (file.length - size), file.drop (file.length - size), ⟨?_, ?_⟩,
    (List.take_append_drop _ _).symm⟩
  · rw [List.length_drop]
    omega
  · exact List.isPrefixOf_iff_prefix.1 hmarker

end Id3v1

end ClipSplice

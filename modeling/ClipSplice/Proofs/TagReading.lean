import ClipSplice.Audio.Cursor
import ClipSplice.Proofs.TagFraming

/-!
# Reading tags from a place

A tag is read from any place of a file, and the cursor ends where the tag does. A tag that a writer
has put down is read back in each of its layouts, without a footer, with one that is flagged and
with one that is not (`Cursor.takeId3v2_headerBytes`). Of any other bytes as much is read as the
header announces and the file has, and what is looked up at the end of a file leaves the cursor in
its place (`Cursor.span_of_tags`).
-/

namespace ClipSplice

namespace Id3v2

/-! ## Layouts of a tag -/

variable {major minor flags : UInt8} {body footer : Bytes}

theorem isTag_of_not_flagged (hflags : footerFlagged flags = false) (hbody : body.length < 2 ^ 28) :
    IsTag (headerBytes major minor flags body.length ++ body) := by
  refine ⟨major, minor, flags, body, [], (List.append_nil _).symm, hbody, ?_⟩
  rw [hflags]
  rfl

theorem isTag_of_flagged (hflags : footerFlagged flags = true) (hbody : body.length < 2 ^ 28)
    (hfooter : footer.length = headerSize) :
    IsTag (headerBytes major minor flags body.length ++ body ++ footer) := by
  refine ⟨major, minor, flags, body, footer, rfl, hbody, ?_⟩
  rw [hflags, if_pos rfl, hfooter]

theorem showsFooter_eq_true_iff {rest : Bytes} :
    showsFooter rest = true ↔
      FrameHeader.ofBytes? rest = none ∧ (FrameHeader.ofBytes? (rest.drop headerSize)).isSome := by
  rw [showsFooter, Bool.and_eq_true, Option.isNone_iff_eq_none]

/-- Ten bytes in front of a frame that are no frame themselves are taken for a footer. -/
theorem showsFooter_append (hfooter : footer.length = headerSize)
    (hnone : FrameHeader.ofBytes? footer = none) {rest : Bytes}
    (hrest : (FrameHeader.ofBytes? rest).isSome) : showsFooter (footer ++ rest) = true := by
  have hsize : FrameHeader.size ≤ footer.length := by
    rw [hfooter]
    decide
  rw [showsFooter_eq_true_iff, FrameHeader.ofBytes?_append hsize, ← hfooter, List.drop_left]
  exact ⟨hnone, hrest⟩

/-! ## What any bytes announce -/

/-- The fields of a header: the size in its last four bytes and the flags in front of them. -/
theorem announcedSize?_of_marker {bytes : Bytes} (hsize : headerSize ≤ bytes.length)
    (hmarker : marker <+: bytes) :
    announcedSize? bytes = some (headerSize + synchsafe ((bytes.drop 6).take 4) +
      if footerFlagged (bytes.getD 5 0) then headerSize else 0) := by
  match bytes, hsize with
  | i :: d :: three :: _ :: _ :: flags :: _ :: _ :: _ :: _ :: _, _ =>
    have hletters : [i, d, three] = marker := by
      rw [marker, List.cons_prefix_cons, List.cons_prefix_cons, List.cons_prefix_cons] at hmarker
      rw [marker, hmarker.1, hmarker.2.1, hmarker.2.2.1]
    have hflag : (flags.toNat / 16 % 2 = 1) = (footerFlagged flags = true) := by
      rw [footerFlagged, Nat.testBit_eq_decide_div_mod_eq, decide_eq_true_eq]
    simp only [announcedSize?, hletters, if_true, hflag]
    rfl

theorem announcedSize?_eq_none_iff {bytes : Bytes} :
    announcedSize? bytes = none ↔ bytes.length < headerSize ∨ ¬ marker <+: bytes := by
  constructor
  · intro hnone
    by_contra hheader
    rw [not_or, not_lt, not_not] at hheader
    rw [announcedSize?_of_marker hheader.1 hheader.2] at hnone
    cases hnone
  · intro hheader
    unfold announcedSize?
    split
    · rename_i i d three _ _ _ _ _ _ _ rest
      apply if_neg
      intro hletters
      rcases hheader with hshort | hmarker
      · simp only [List.length_cons, headerSize] at hshort
        omega
      · apply hmarker
        rw [← hletters]
        exact List.prefix_append [i, d, three] _
    · rfl

/-- Only bytes that start with a header are read. -/
theorem read_eq_nil_iff {bytes : Bytes} :
    read bytes = [] ↔ bytes.length < headerSize ∨ ¬ marker <+: bytes := by
  rw [← announcedSize?_eq_none_iff]
  constructor
  · intro hnil
    by_contra hsome
    obtain ⟨announced, hannounced⟩ := Option.ne_none_iff_exists'.1 hsome
    have hheader := headerSize_le_of_announcedSize? hannounced
    have hlong : headerSize ≤ bytes.length := by
      by_contra hshort
      exact hsome (announcedSize?_eq_none_iff.2 (.inl (by omega)))
    have hlength := congrArg List.length hnil
    rw [read_of_announcedSize? hannounced, List.length_take, List.length_nil] at hlength
    simp only [headerSize] at hheader hlong
    omega
  · intro hnone
    rw [read, hnone]

/-- As much is read as the header announces and the bytes have, and ten bytes more where these show
a footer that was not flagged. -/
theorem length_read {bytes : Bytes} {announced : Nat}
    (h : announcedSize? bytes = some announced) :
    (read bytes).length = min bytes.length announced +
      if showsFooter (bytes.drop announced) then headerSize else 0 := by
  rw [read_of_announcedSize? h, List.length_take]
  split
  · rename_i hfooter
    -- a frame behind the footer means that the whole footer is there
    obtain ⟨-, hframe⟩ := showsFooter_eq_true_iff.1 hfooter
    obtain ⟨header, hheader⟩ := Option.isSome_iff_exists.1 hframe
    have hsize := FrameHeader.size_le_of_ofBytes? hheader
    rw [List.length_drop, List.length_drop] at hsize
    simp only [FrameHeader.size, headerSize] at hsize ⊢
    omega
  · omega

end Id3v2

namespace Id3v1

/-- The last 128 bytes are the tag if they start with its marker. -/
theorem ofFile?_eq_some_iff {file tag : Bytes} :
    ofFile? file = some tag ↔
      size ≤ file.length ∧ tag = file.drop (file.length - size) ∧ marker <+: tag := by
  simp only [ofFile?, Option.ite_none_right_eq_some, Option.some.injEq, List.isPrefixOf_iff_prefix]
  constructor
  · rintro ⟨⟨hsize, hmarker⟩, hlast⟩
    exact ⟨hsize, hlast.symm, hlast ▸ hmarker⟩
  · rintro ⟨hsize, hlast, hmarker⟩
    exact ⟨⟨hsize, hlast ▸ hmarker⟩, hlast.symm⟩

/-- The audio ends in front of the tag, and a correction never puts that end further on. -/
theorem read_fst_le (file : Bytes) (corrected : Bool) :
    let nominal := if (read file corrected).2.isSome then file.length - size else file.length
    if corrected then (read file corrected).1 ≤ nominal
    else (read file corrected).1 = nominal := by
  unfold read
  dsimp only
  split
  · apply correctedEnd_le
  · rfl

end Id3v1

namespace Cursor

/-! ## Tags as they were written -/

/-- The cursor that has some bytes of its file behind it and others ahead. -/
def between (behind ahead : Bytes) : Cursor := ⟨behind ++ ahead, behind.length⟩

theorem rest_between (behind ahead : Bytes) : (between behind ahead).rest = ahead :=
  List.drop_left

theorem take_between (behind bytes ahead : Bytes) :
    (between behind (bytes ++ ahead)).take bytes.length = (bytes, between (behind ++ bytes) ahead) := by
  simp only [take, rest_between, List.take_left]
  simp only [between, List.append_assoc, List.length_append]

/-- The cursor passes over the tag. -/
theorem takeId3v2_between {tag ahead : Bytes} (behind : Bytes)
    (hread : Id3v2.read (tag ++ ahead) = tag) :
    (between behind (tag ++ ahead)).takeId3v2 = (tag, between (behind ++ tag) ahead) := by
  rw [takeId3v2_eq, rest_between, hread, take_between]

/-- A tag with a body of less than 2 ^ 28 bytes is read back from any place, and the cursor ends
behind it: a tag without a footer where a frame follows or none starts ten bytes on, a tag with a
flagged footer where a frame follows, and a tag with a footer that is not flagged, and that is no
frame, where a frame follows. -/
theorem takeId3v2_headerBytes (behind body : Bytes) (major minor flags : UInt8)
    (hbody : body.length < 2 ^ 28) :
    let tag := Id3v2.headerBytes major minor flags body.length ++ body
    (Id3v2.footerFlagged flags = false → ∀ rest,
      (FrameHeader.ofBytes? rest).isSome ∨
          FrameHeader.ofBytes? (rest.drop Id3v2.headerSize) = none →
        (between behind (tag ++ rest)).takeId3v2 = (tag, between (behind ++ tag) rest)) ∧
    (Id3v2.footerFlagged flags = true → ∀ footer rest, footer.length = Id3v2.headerSize →
      (FrameHeader.ofBytes? rest).isSome →
        (between behind (tag ++ footer ++ rest)).takeId3v2 =
          (tag ++ footer, between (behind ++ (tag ++ footer)) rest)) ∧
    (Id3v2.footerFlagged flags = false → ∀ footer rest, footer.length = Id3v2.headerSize →
      FrameHeader.ofBytes? footer = none → (FrameHeader.ofBytes? rest).isSome →
        (between behind (tag ++ footer ++ rest)).takeId3v2 =
          (tag ++ footer, between (behind ++ (tag ++ footer)) rest)) := by
  intro tag
  refine ⟨?_, ?_, ?_⟩
  · intro hflags rest hrest
    apply takeId3v2_between
    have htag : Id3v2.IsTag tag := Id3v2.isTag_of_not_flagged hflags hbody
    have hfooter : ¬ Id3v2.showsFooter rest := by
      rw [Id3v2.showsFooter_eq_true_iff]
      rintro ⟨hnone, hsome⟩
      rcases hrest with hframe | hnone'
      · rw [hnone] at hframe
        cases hframe
      · rw [hnone'] at hsome
        cases hsome
    rw [htag.read_append, if_neg hfooter, List.append_nil]
  · intro hflags footer rest hfooter hrest
    apply takeId3v2_between
    exact Id3v2.read_append_audio (.inr (Id3v2.isTag_of_flagged hflags hbody hfooter)) hrest
  · intro hflags footer rest hfooter hnone hrest
    apply takeId3v2_between
    have htag : Id3v2.IsTag tag := Id3v2.isTag_of_not_flagged hflags hbody
    rw [List.append_assoc, htag.read_append, if_pos (Id3v2.showsFooter_append hfooter hnone hrest),
      ← hfooter, List.take_left]

/-- The three layouts behind one other byte and in front of a frame. -/
theorem takeId3v2_headerBytes_layouts :
    let frame : Bytes := [0xff, 0xfb, 0x18, 0xc4]
    let tag (flags : UInt8) : Bytes := Id3v2.headerBytes 3 0 flags 2 ++ [8, 9]
    let flagged : Bytes := [0x33, 0x44, 0x49, 3, 0, 0x10, 0, 0, 0, 2]
    let unflagged : Bytes := List.replicate 10 0
    (between [7] (tag 0 ++ frame)).takeId3v2 = (tag 0, between ([7] ++ tag 0) frame) ∧
    (between [7] (tag 0x10 ++ flagged ++ frame)).takeId3v2 =
      (tag 0x10 ++ flagged, between ([7] ++ (tag 0x10 ++ flagged)) frame) ∧
    (between [7] (tag 0 ++ unflagged ++ frame)).takeId3v2 =
      (tag 0 ++ unflagged, between ([7] ++ (tag 0 ++ unflagged)) frame) := by
  intro frame tag flagged unflagged
  have hbody : ([8, 9] : Bytes).length < 2 ^ 28 := by decide
  obtain ⟨hplain, -, hunflagged⟩ := takeId3v2_headerBytes [7] [8, 9] 3 0 0 hbody
  obtain ⟨-, hflagged, -⟩ := takeId3v2_headerBytes [7] [8, 9] 3 0 0x10 hbody
  refine ⟨?_, ?_, ?_⟩
  · exact hplain rfl frame (.inl rfl)
  · exact hflagged rfl flagged frame rfl rfl
  · exact hunflagged rfl unflagged frame rfl rfl rfl

/-! ## Tags of any file -/

/-- What is read is what the bytes ahead start with, and the cursor ends behind it. -/
theorem takeId3v2_eq_read (cursor : Cursor) :
    cursor.takeId3v2 =
      (Id3v2.read cursor.rest, cursor.seek (cursor.place + (Id3v2.read cursor.rest).length)) := by
  rw [takeId3v2_eq]
  simp only [take, Id3v2.take_length_read, seek]

theorem takeId3v2_eq_nil_iff {cursor : Cursor} :
    cursor.takeId3v2 = ([], cursor) ↔
      cursor.rest.length < Id3v2.headerSize ∨ ¬ Id3v2.marker <+: cursor.rest := by
  rw [← Id3v2.read_eq_nil_iff, takeId3v2_eq_read]
  constructor
  · intro hnil
    exact congrArg Prod.fst hnil
  · intro hnil
    rw [hnil]
    rfl

/-- Whatever stands in a file and wherever the cursor is in it: reading an ID3v2 tag gives the bytes
of the file from there on and leaves the cursor behind them. Nothing is read just when fewer than
ten bytes are left or they do not start with the marker; otherwise what the header announces is
read, as far as the file has it, with ten bytes more where no frame starts behind that and one
starts ten bytes on. Looking up the ID3v1 tag leaves the cursor in its place and finds the last 128
bytes just when the file has them and they start with the marker; the audio ends in front of the tag,
and a correction never puts that end further on. -/
theorem span_of_tags (cursor : Cursor) :
    let read := cursor.takeId3v2
    read.1 = cursor.rest.take read.1.length ∧
    read.2 = cursor.seek (cursor.place + read.1.length) ∧
    (read = ([], cursor) ↔
      cursor.rest.length < Id3v2.headerSize ∨ ¬ Id3v2.marker <+: cursor.rest) ∧
    (Id3v2.headerSize ≤ cursor.rest.length → Id3v2.marker <+: cursor.rest →
      let announced := Id3v2.headerSize + Id3v2.synchsafe ((cursor.rest.drop 6).take 4) +
        if Id3v2.footerFlagged (cursor.rest.getD 5 0) then Id3v2.headerSize else 0
      let behind := cursor.rest.drop announced
      read.1.length = min cursor.rest.length announced +
        if FrameHeader.ofBytes? behind = none ∧
            (FrameHeader.ofBytes? (behind.drop Id3v2.headerSize)).isSome then Id3v2.headerSize
        else 0) ∧
    ∀ corrected,
      let found := cursor.findId3v1 corrected
      let nominal :=
        if found.1.2.isSome then cursor.file.length - Id3v1.size else cursor.file.length
      found.2 = cursor ∧
      (∀ tag, found.1.2 = some tag ↔ Id3v1.size ≤ cursor.file.length ∧
        tag = cursor.file.drop (cursor.file.length - Id3v1.size) ∧ Id3v1.marker <+: tag) ∧
      if corrected then found.1.1 ≤ nominal else found.1.1 = nominal := by
  intro read
  have hread : read.1 = Id3v2.read cursor.rest := congrArg Prod.fst (takeId3v2_eq_read cursor)
  refine ⟨?_, ?_, takeId3v2_eq_nil_iff, ?_, ?_⟩
  · rw [hread, Id3v2.take_length_read]
  · rw [hread]
    exact congrArg Prod.snd (takeId3v2_eq_read cursor)
  · intro hsize hmarker announced behind
    have hannounced := Id3v2.announcedSize?_of_marker hsize hmarker
    rw [hread, Id3v2.length_read hannounced]
    simp only [Id3v2.showsFooter_eq_true_iff]
    rfl
  · intro corrected
    rw [findId3v1_eq]
    exact ⟨rfl, fun tag => Id3v1.ofFile?_eq_some_iff, Id3v1.read_fst_le cursor.file corrected⟩

/-- A header that announces more than the file has, behind one other byte: all that is left is read,
the tag at the end of the file included, which is found there as well. -/
theorem span_of_tags_truncated :
    let trailer : Bytes := [0x54, 0x41, 0x47] ++ List.replicate 125 32
    let cursor : Cursor := ⟨[7] ++ Id3v2.headerBytes 3 0 0x10 200 ++ trailer, 1⟩
    Id3v2.headerSize ≤ cursor.rest.length ∧ Id3v2.marker <+: cursor.rest ∧
      cursor.takeId3v2.1.length = 138 ∧ cursor.takeId3v2.2.place = 139 ∧
      (cursor.findId3v1 true).1.2 = some trailer ∧ (cursor.findId3v1 true).1.1 ≤ 11 := by
  intro trailer cursor
  have hsize : Id3v2.headerSize ≤ cursor.rest.length := by decide +kernel
  have hmarker : Id3v2.marker <+: cursor.rest := ⟨cursor.rest.drop 3, rfl⟩
  obtain ⟨-, hplace, -, hlength, hfound⟩ := span_of_tags cursor
  have hread : cursor.takeId3v2.1.length = 138 :=
    (hlength hsize hmarker).trans (by decide +kernel)
  obtain ⟨-, htag, hstop⟩ := hfound true
  have htrailer : (cursor.findId3v1 true).1.2 = some trailer :=
    (htag trailer).2 ⟨by decide +kernel, by decide +kernel, ⟨List.replicate 125 32, rfl⟩⟩
  refine ⟨hsize, hmarker, hread, ?_, htrailer, ?_⟩
  · rw [hplace, hread]
    rfl
  · rw [if_pos rfl, htrailer] at hstop
    exact hstop.trans (by decide +kernel)

end Cursor

end ClipSplice

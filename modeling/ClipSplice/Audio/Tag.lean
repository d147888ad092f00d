import ClipSplice.Audio.Boundary

/-!
# ID3 tags

Tags surround the audio of a file: an ID3v2 tag may stand in front of it and an ID3v1 tag of 128
bytes behind it. `Id3v2.read` gives the tag that some bytes start with, and `Id3v1.read` where the
audio of a file ends and the tag that follows.
-/

namespace ClipSplice

namespace Id3v2

/-- The length of the header of a tag, and of its footer. -/
def headerSize : Nat := 10

/-- The number written in bytes of seven bits each, the most significant first. -/
def synchsafe (bytes : Bytes) : Nat := bytes.foldl (fun n b => n * 128 + b.toNat % 128) 0

/-- The first byte sequence of every tag. -/
def marker : Bytes := [0x49, 0x44, 0x33]

/-- The length that a tag's header announces for the whole tag, footer included if it is flagged;
none if the bytes do not start with a header. -/
def announcedSize? (bytes : Bytes) : Option Nat :=
  match bytes with
  | i :: d :: three :: _ :: _ :: flags :: s0 :: s1 :: s2 :: s3 :: _ =>
    if [i, d, three] = marker then
      some (headerSize + synchsafe [s0, s1, s2, s3] +
        if flags.toNat / 16 % 2 = 1 then headerSize else 0)
    else none
  | _ => none

/-- The header alone tells what the whole bytes tell. -/
theorem announcedSize?_take_headerSize (bytes : Bytes) :
    announcedSize? (bytes.take headerSize) = announcedSize? bytes := by
  by_cases hshort : bytes.length ≤ headerSize
  · rw [List.take_of_length_le hshort]
  · rw [← List.take_append_drop headerSize bytes]
    generalize hheader : bytes.take headerSize = header
    have hsize : header.length = headerSize := by
      rw [← hheader, List.length_take]
      omega
    match header, hsize with
    | [_, _, _, _, _, _, _, _, _, _], _ => rfl

theorem headerSize_le_of_announcedSize? {bytes : Bytes} {announced : Nat}
    (h : announcedSize? bytes = some announced) : headerSize ≤ announced := by
  unfold announcedSize? at h
  split at h
  · split at h
    · obtain rfl := Option.some.inj h
      omega
    · cases h
  · cases h

/-- Whether the bytes behind the announced end of a tag show a footer that was not flagged: no frame
starts there, but one starts ten bytes later. -/
def showsFooter (rest : Bytes) : Bool :=
  (FrameHeader.ofBytes? rest).isNone && (FrameHeader.ofBytes? (rest.drop headerSize)).isSome

/-- The tag that some bytes start with, header included; nothing if there is none. Some encoders
write a footer without flagging it: where the bytes behind the tag show one, they belong to it. -/
def read (bytes : Bytes) : Bytes :=
  match announcedSize? bytes with
  | none => []
  | some announced =>
    let footer := showsFooter ((bytes.drop announced).take syncWindow)
    bytes.take (announced + if footer then headerSize else 0)

end Id3v2

namespace Id3v1

/-- The length of a tag. -/
def size : Nat := 128

/-- The first byte sequence of every tag. -/
def marker : Bytes := [0x54, 0x41, 0x47]

/-- The tag at the end of a file, if there is one. -/
def ofFile? (file : Bytes) : Option Bytes :=
  let last := file.drop (file.length - size)
  if size ≤ file.length ∧ marker.isPrefixOf last then some last else none

/-- Where the audio of a file ends, and the tag behind it. With `corrected` the end is pulled back
to the last complete frame. -/
def read (file : Bytes) (corrected : Bool) : Nat × Option Bytes :=
  let tag := ofFile? file
  let nominal := if tag.isSome then file.length - size else file.length
  (if corrected then correctedEnd file nominal syncWindow else nominal, tag)

end Id3v1

end ClipSplice

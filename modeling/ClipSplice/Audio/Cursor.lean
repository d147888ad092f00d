import ClipSplice.Audio.Tag

/-!
# Reading a file from a place

A `Cursor` is a file that is being read, with the place that has been reached. An ID3v2 tag is read
from that place on, which moves behind the tag; bytes that are only looked at are given back. What
stands at the end of a file is looked up from any place, which is set back. `takeId3v2_eq` and
`findId3v1_eq` say that these sequences of reads find what `Id3v2.read` and `Id3v1.read` tell of the
bytes.
-/

namespace ClipSplice

/-- A file and a place in it. -/
structure Cursor where
  file : Bytes
  place : Nat
deriving Repr, DecidableEq

namespace Cursor

/-! ## Places -/

/-- The bytes from the place on. -/
def rest (cursor : Cursor) : Bytes := cursor.file.drop cursor.place

/-- The same file at another place. -/
def seek (cursor : Cursor) (place : Nat) : Cursor := { cursor with place }

/-- Read up to `n` bytes. -/
def take (cursor : Cursor) (n : Nat) : Bytes × Cursor :=
  let bytes := cursor.rest.take n
  (bytes, { cursor with place := cursor.place + bytes.length })

/-! Neither moves to another file. -/

@[simp] theorem file_seek (cursor : Cursor) (place : Nat) :
    (cursor.seek place).file = cursor.file := rfl

@[simp] theorem file_take (cursor : Cursor) (n : Nat) : (cursor.take n).2.file = cursor.file := rfl

theorem rest_take (cursor : Cursor) (n : Nat) : (cursor.take n).2.rest = cursor.rest.drop n := by
  simp only [take, rest, List.length_take, List.length_drop, List.drop_drop]
  by_cases h : n ≤ cursor.file.length - cursor.place
  · rw [Nat.min_eq_left h]
  · rw [List.drop_of_length_le (by omega), List.drop_of_length_le (by omega)]

/-- Two reads one after the other are one. -/
theorem take_take (cursor : Cursor) (m n : Nat) :
    ((cursor.take m).1 ++ ((cursor.take m).2.take n).1, ((cursor.take m).2.take n).2) =
      cursor.take (m + n) := by
  have hbytes : cursor.rest.take (m + n) = cursor.rest.take m ++ (cursor.rest.drop m).take n :=
    List.take_add
  have hrest := rest_take cursor m
  simp only [take] at hrest ⊢
  rw [hrest, hbytes, List.length_append, Nat.add_assoc]

/-- Reading as many bytes as a read gave. -/
theorem take_length_take (cursor : Cursor) (n : Nat) :
    cursor.take (cursor.rest.take n).length = cursor.take n := by
  have hbytes : cursor.rest.take (cursor.rest.take n).length = cursor.rest.take n := by
    rw [List.length_take, ← List.take_eq_take_min]
  simp only [take, hbytes]

/-! ## Tags -/

/-- Read the ID3v2 tag that starts at the place, if one does: its header, what the header announces,
and a footer that was not flagged where the bytes behind the tag show one. -/
def takeId3v2 (cursor : Cursor) : Bytes × Cursor :=
  let (header, opened) := cursor.take Id3v2.headerSize
  match Id3v2.announcedSize? header with
  | none => ([], opened.seek cursor.place)
  | some announced =>
    let (body, behind) := opened.take (announced - Id3v2.headerSize)
    let (seen, moved) := behind.take syncWindow
    let back := moved.seek behind.place
    if Id3v2.showsFooter seen then
      let (footer, closed) := back.take Id3v2.headerSize
      (header ++ body ++ footer, closed)
    else (header ++ body, back)

/-- The tag that is read is the one that the bytes from the place on start with. -/
theorem takeId3v2_eq (cursor : Cursor) :
    cursor.takeId3v2 = cursor.take (Id3v2.read cursor.rest).length := by
  have hheader : (cursor.take Id3v2.headerSize).1 = cursor.rest.take Id3v2.headerSize := rfl
  simp only [takeId3v2, Id3v2.read, hheader, Id3v2.announcedSize?_take_headerSize]
  cases hsize : Id3v2.announcedSize? cursor.rest with
  | none => rfl
  | some announced =>
    -- the header and what it announces are one read, and a footer makes one read with both
    have hannounced : Id3v2.headerSize + (announced - Id3v2.headerSize) = announced :=
      Nat.add_sub_cancel' (Id3v2.headerSize_le_of_announcedSize? hsize)
    have htag := take_take cursor Id3v2.headerSize (announced - Id3v2.headerSize)
    rw [hannounced, hheader] at htag
    have hbytes := congrArg Prod.fst htag
    have hbehind := congrArg Prod.snd htag
    dsimp only at hbytes hbehind
    have hseen : ((cursor.take announced).2.take syncWindow).1 =
        (cursor.rest.drop announced).take syncWindow :=
      congrArg (List.take syncWindow) (rest_take cursor announced)
    have hback : ((cursor.take announced).2.take syncWindow).2.seek
        (cursor.take announced).2.place = (cursor.take announced).2 := rfl
    simp only [hbytes, hbehind, hseen, hback, take_length_take]
    split
    · exact take_take cursor announced Id3v2.headerSize
    · rfl

/-! ## The end of the audio -/

/-- Look up the end of the last complete frame that starts within `window` bytes before the offset
`nominal`; that offset if there is none. The bytes are read where they stand, and the place is set
back. There is memory for a window of any size. -/
def findEnd (cursor : Cursor) (nominal window : Nat) : Nat × Cursor :=
  let start := nominal - window
  let (bytes, moved) := (cursor.seek start).take (nominal - start)
  let stop :=
    match alignedEnd? bytes with
    | some e => start + e
    | none => nominal
  (stop, moved.seek cursor.place)

/-- The end that is looked up is the corrected end of the file, and the place is what it was. -/
theorem findEnd_eq (cursor : Cursor) (nominal window : Nat) :
    cursor.findEnd nominal window = (correctedEnd cursor.file nominal window, cursor) := rfl

/-- Look up the ID3v1 tag in the last bytes of the file, if they are one. -/
def findTrailer (cursor : Cursor) : Option Bytes × Cursor :=
  let size := cursor.file.length
  let sought := cursor.seek size
  if Id3v1.size ≤ size then
    let (last, moved) := (sought.seek (size - Id3v1.size)).take Id3v1.size
    if last.length = Id3v1.size ∧ Id3v1.marker.isPrefixOf last then (some last, moved)
    else (none, moved)
  else (none, sought)

/-- Look up where the audio of the file ends and the ID3v1 tag behind it. With `corrected` the end
is pulled back to the last complete frame. The place is set back. -/
def findId3v1 (cursor : Cursor) (corrected : Bool) : (Nat × Option Bytes) × Cursor :=
  let found := cursor.findTrailer
  let nominal := if found.1.isSome then cursor.file.length - Id3v1.size else cursor.file.length
  let ended := if corrected then found.2.findEnd nominal syncWindow else (nominal, found.2)
  ((ended.1, found.1), ended.2.seek cursor.place)

theorem findTrailer_fst (cursor : Cursor) : cursor.findTrailer.1 = Id3v1.ofFile? cursor.file := by
  simp only [findTrailer, Id3v1.ofFile?]
  by_cases hsize : Id3v1.size ≤ cursor.file.length
  · have hlength : (cursor.file.drop (cursor.file.length - Id3v1.size)).length = Id3v1.size := by
      rw [List.length_drop]
      omega
    have hlast : (((cursor.seek cursor.file.length).seek
        (cursor.file.length - Id3v1.size)).take Id3v1.size).1 =
          cursor.file.drop (cursor.file.length - Id3v1.size) := by
      simp only [take, rest, seek]
      exact List.take_of_length_le (Nat.le_of_eq hlength)
    simp only [hsize, hlast, hlength, if_true, true_and]
    exact apply_ite Prod.fst _ _ _
  · simp only [hsize, if_false, false_and]

theorem findTrailer_snd_file (cursor : Cursor) : cursor.findTrailer.2.file = cursor.file := by
  simp only [findTrailer]
  split
  · split
    · rw [file_take, file_seek, file_seek]
    · rw [file_take, file_seek, file_seek]
  · rw [file_seek]

/-- What is looked up is what the bytes of the file tell, and the place is what it was. -/
theorem findId3v1_eq (cursor : Cursor) (corrected : Bool) :
    cursor.findId3v1 corrected = (Id3v1.read cursor.file corrected, cursor) := by
  have hend : ∀ nominal, (if corrected then cursor.findTrailer.2.findEnd nominal syncWindow
      else (nominal, cursor.findTrailer.2)) =
        (if corrected then correctedEnd cursor.file nominal syncWindow else nominal,
          cursor.findTrailer.2) := by
    intro nominal
    rw [findEnd_eq, findTrailer_snd_file]
    cases corrected with
    | false => simp only [Bool.false_eq_true, if_false]
    | true => simp only [if_true]
  rw [findId3v1, Id3v1.read, ← findTrailer_fst]
  simp only [hend, seek, findTrailer_snd_file]

end Cursor

end ClipSplice

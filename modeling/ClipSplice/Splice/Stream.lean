import ClipSplice.Splice.Engine

/-!
# Splices

A `Splice` produces the bytes of a spliced file piece by piece: the ID3v2 tag of the tag source and
the audio of the engine in chunks of a limited size, then the ID3v1 tag of the tag source in one
piece. An error is the last thing that a splice produces. `Splice.next` makes one step,
`Splice.drain` all of them, and `Splice.writeTo` writes the bytes into a temporary file, which takes
the place of another file only once everything is written.
-/

namespace ClipSplice

/-- The size of chunks where none is set: a mebibyte. -/
def defaultChunkSize : Nat := 1024 * 1024

/-- The settings of a splice. -/
structure SpliceOptions where
  /-- The most bytes of a chunk. -/
  chunkSize : Nat := defaultChunkSize
  /-- The file whose tags frame the result. -/
  tagSource : Option FilePath := none
  engine : Engine := .default
deriving Repr, DecidableEq

/-- Set the chunk size; a chunk holds at least one byte. -/
def SpliceOptions.withChunkSize (options : SpliceOptions) (size : Nat) : SpliceOptions :=
  { options with chunkSize := max size 1 }

/-- What a splice is about to produce. -/
inductive Phase where
  | head
  | body
  | tail
  | done
deriving Repr, DecidableEq

/-- A splice in progress. -/
structure Splice where
  chunkSize : Nat
  phase : Phase
  head : Bytes
  /-- How much of the head has been produced. -/
  offset : Nat
  body : Body
  tail : Bytes
deriving Repr

namespace Splice

/-- One piece of a splice. -/
abbrev Item := Except Error Bytes

/-- The tags of a file: the one in front and the one behind, each empty if there is none. -/
def tagsOf (file : Bytes) : Bytes × Bytes :=
  let (head, cursor) := Cursor.takeId3v2 ⟨file, 0⟩
  let ((_, tail), _) := cursor.findId3v1 false
  (head, tail.getD [])

/-- Start to splice files in order. The tags are read and external tools are run at once, the audio
is read when it is asked for. -/
def start (tree : FileTree) (programs : Programs) (files : List FilePath)
    (options : SpliceOptions) : Except Error Splice := do
  let (head, tail) ←
    match options.tagSource with
    | none => .ok (([], []) : Bytes × Bytes)
    | some source =>
      match tree.read source with
      | .ok file => .ok (tagsOf file)
      | .error fault => .error (.io fault)
  let body ← options.engine.start tree programs files
  .ok { chunkSize := options.chunkSize, phase := .head, head, offset := 0, body, tail }

/-! ## Steps -/

/-- The step in the tail: the tail as one piece, unless it is empty. -/
def nextOfTail (s : Splice) : Option Item × Splice :=
  if s.tail.isEmpty then (none, { s with phase := .done })
  else (some (.ok s.tail), { s with phase := .done, tail := [] })

/-- The step in the body: the next chunk of audio; the tail follows its end, nothing an error. -/
def nextOfBody (tree : FileTree) (s : Splice) : Option Item × Splice :=
  match s.body.next tree s.chunkSize with
  | (some (.ok chunk), body) => (some (.ok chunk), { s with body })
  | (some (.error e), body) => (some (.error e), { s with body, phase := .done })
  | (none, body) => nextOfTail { s with body, phase := .tail }

/-- The step in the head: the next chunk of it; the body follows its end. -/
def nextOfHead (tree : FileTree) (s : Splice) : Option Item × Splice :=
  if s.offset < s.head.length then
    let stop := min s.head.length (s.offset + s.chunkSize)
    (some (.ok ((s.head.drop s.offset).take (stop - s.offset))), { s with offset := stop })
  else nextOfBody tree { s with phase := .body }

/-- The next piece and what is left then; none at the end. -/
def next (tree : FileTree) (s : Splice) : Option Item × Splice :=
  match s.phase with
  | .head => nextOfHead tree s
  | .body => nextOfBody tree s
  | .tail => nextOfTail s
  | .done => (none, s)

/-! ## Whole runs -/

/-- Up to `n` pieces and what is left then. -/
def takeItems (tree : FileTree) : Nat → Splice → List Item × Splice
  | 0, s => ([], s)
  | n + 1, s =>
    match s.next tree with
    | (none, s) => ([], s)
    | (some item, s) =>
      let (items, s) := takeItems tree n s
      (item :: items, s)

/-- A number of pieces that is not exceeded. -/
def bound (tree : FileTree) (s : Splice) : Nat := s.head.length + s.body.bound tree + 2

/-- All pieces, and the splice at its end. -/
def drain (tree : FileTree) (s : Splice) : List Item × Splice := s.takeItems tree (s.bound tree)

/-- The bytes of some pieces, or the first error among them. -/
def bytesOf : List Item → Except Error Bytes
  | [] => .ok []
  | .error e :: _ => .error e
  | .ok chunk :: items => (bytesOf items).map (chunk ++ ·)

/-! ## Writing into a file -/

/-- Write up to `n` pieces one behind the other into the file at a location. Each of them is made
when it is needed, from the files as they are then, so also while the file grows. Gives how many
bytes were written, counted from `written`, or the error that came instead of a piece. -/
def writeItems (file : Location) (time : Nat) :
    (n written : Nat) → FileTree → Splice → Except Error Nat × FileTree
  | 0, written, tree, _ => (.ok written, tree)
  | n + 1, written, tree, s =>
    match s.next tree with
    | (none, _) => (.ok written, tree)
    | (some (.error e), _) => (.error e, tree)
    | (some (.ok chunk), s) =>
      writeItems file time n (written + chunk.length) (tree.append file chunk time) s

/-- Write the whole splice into the file that a path names, by way of a temporary file of a given
name in the same directory. It takes the place of the file once everything is written, and it is
removed when something fails before. Gives the number of bytes. -/
def writeBeside (tree : FileTree) (s : Splice) (name : String) (path : FilePath) (time : Nat) :
    Except Error Nat × FileTree :=
  match tree.create path.directory name time with
  | .error fault => (.error (.io fault), tree)
  | .ok (temporary, opened) =>
    match s.writeItems temporary time (s.bound tree) 0 opened with
    | (.error e, filled) => (.error e, filled.erase temporary)
    | (.ok written, filled) =>
      match filled.rename temporary path with
      | .error fault => (.error (.io fault), filled.erase temporary)
      | .ok replaced => (.ok written, replaced)

/-- The names in a tree and on the way to the files that a splice has still to open. -/
def usedNames (tree : FileTree) (s : Splice) : List String :=
  tree.entries.flatMap Prod.fst ++ s.body.queue.flatMap FilePath.steps

/-- A name for a temporary file: longer than some other names, so none of them. -/
def temporaryName (used : List String) : String :=
  ".tmp" ++ .ofList (List.replicate (used.flatMap String.toList).length '0')

/-- Write the whole splice into the file that a path names, at a given time. The file is replaced
only if the whole splice was produced; the number of bytes is returned. -/
def writeTo (tree : FileTree) (s : Splice) (path : FilePath) (time : Nat) :
    Except Error Nat × FileTree :=
  s.writeBeside tree (temporaryName (s.usedNames tree)) path time

end Splice

end ClipSplice

import ClipSplice.Audio.Header
import ClipSplice.Storage.Path

/-!
# Files

A `FileTree` is what a file system holds at one moment: directories, and files with their bytes and
the time of their last change. Paths are followed step by step, so that `a/../b` needs a directory
`a`, and so does `a/.`; what can go wrong on the way is an `IoFault`.
-/

namespace ClipSplice

/-- Why an operation on files failed. -/
inductive IoFault where
  | notFound
  | isADirectory
  | notADirectory
  /-- A text file whose bytes are not UTF-8. -/
  | invalidData
  /-- A path that holds a zero character. -/
  | invalidInput
  /-- A name too long for a file. -/
  | invalidFilename
  /-- A path that ends in a dot or two where a file is to be put. -/
  | resourceBusy
deriving Repr, DecidableEq

/-- The name of a fault's kind. -/
def IoFault.kind : IoFault → String
  | .notFound => "NotFound"
  | .isADirectory => "IsADirectory"
  | .notADirectory => "NotADirectory"
  | .invalidData => "InvalidData"
  | .invalidInput => "InvalidInput"
  | .invalidFilename => "InvalidFilename"
  | .resourceBusy => "ResourceBusy"

/-- What stands at a location. -/
inductive FileEntry where
  | file (content : Bytes) (modified : Nat)
  | directory
deriving Repr, DecidableEq

/-- A location: the names that lead to it from the root. -/
abbrev Location := List String

/-- Files and directories by location. The root is always a directory and is not listed. -/
structure FileTree where
  entries : List (Location × FileEntry) := []
deriving Repr

namespace FileTree

/-- What stands at a location. -/
def get? (tree : FileTree) (location : Location) : Option FileEntry :=
  if location = [] then some .directory else tree.entries.lookup location

/-- The longest name that a file may have, in bytes. -/
def nameLimit : Nat := 255

/-- Follow the steps of a path from a location. Every location that is left behind must be a
directory; the one that is reached need not exist. -/
def follow (tree : FileTree) : Location → List String → Except IoFault Location
  | location, [] => .ok location
  | location, name :: names =>
    match tree.get? location with
    | none => .error .notFound
    | some (.file ..) => .error .notADirectory
    | some .directory =>
      if name = "." then follow tree location names
      else if name = ".." then follow tree location.dropLast names
      else if nameLimit < name.utf8ByteSize then .error .invalidFilename
      else follow tree (location ++ [name]) names

/-- The location that a path leads to. -/
def locate (tree : FileTree) (path : FilePath) : Except IoFault Location :=
  if path = "" then .error .notFound
  else if path.toList.contains '\x00' then .error .invalidInput
  else tree.follow [] path.steps

/-- What a path names. A path that ends in a slash names a directory only. -/
def find (tree : FileTree) (path : FilePath) : Except IoFault FileEntry := do
  let location ← tree.locate path
  match tree.get? location with
  | none => .error .notFound
  | some (.file content modified) =>
    if path.endsInSlash then .error .notADirectory else .ok (.file content modified)
  | some .directory => .ok .directory

/-! ## Reading -/

/-- The bytes of a file. -/
def read (tree : FileTree) (path : FilePath) : Except IoFault Bytes := do
  match ← tree.find path with
  | .file content _ => .ok content
  | .directory => .error .isADirectory

/-- The text of a file. -/
def readText (tree : FileTree) (path : FilePath) : Except IoFault String := do
  let content ← tree.read path
  match String.fromUTF8? ⟨content.toArray⟩ with
  | some text => .ok text
  | none => .error .invalidData

/-- Whether a path names a file. -/
def isFile (tree : FileTree) (path : FilePath) : Bool :=
  match tree.find path with
  | .ok (.file ..) => true
  | _ => false

/-- The time of the last change of what a path names; directories count as never changed. -/
def modified (tree : FileTree) (path : FilePath) : Except IoFault Nat := do
  match ← tree.find path with
  | .file _ time => .ok time
  | .directory => .ok 0

/-- The names in a directory, in increasing order. -/
def names (tree : FileTree) (directory : Location) : List String :=
  (tree.entries.filterMap fun (location, _) =>
    if location.dropLast = directory && location ≠ [] then location.getLast? else none).mergeSort

/-! ## Changing -/

/-- Put an entry at a location, in place of what stands there. -/
def put (tree : FileTree) (location : Location) (entry : FileEntry) : FileTree :=
  ⟨(location, entry) :: tree.entries.filter fun (other, _) => other ≠ location⟩

/-- Putting an entry changes what stands at its location and nothing else. -/
theorem get?_put (tree : FileTree) {location : Location} (h : location ≠ []) (entry : FileEntry)
    (other : Location) :
    (tree.put location entry).get? other =
      if other = location then some entry else tree.get? other := by
  by_cases same : other = location
  · subst same
    simp [get?, put, h]
  · rw [if_neg same]
    unfold get?
    split
    · rfl
    · simp only [put, List.lookup_cons, beq_false_of_ne same]
      induction tree.entries with
      | nil => rfl
      | cons e rest ih =>
        obtain ⟨at', what⟩ := e
        by_cases here : at' = location
        · subst here
          simpa [List.lookup_cons, beq_false_of_ne same] using ih
        · by_cases found : other = at'
          · subst found
            simp [here]
          · simpa [List.lookup_cons, here, beq_false_of_ne found] using ih

/-- Take away what stands at a location. -/
def erase (tree : FileTree) (location : Location) : FileTree :=
  ⟨tree.entries.filter fun (other, _) => other ≠ location⟩

/-- Make the directories on the way to a location where they are missing. -/
def makeDirectories (tree : FileTree) (location : Location) : FileTree :=
  (List.range location.length).foldl
    (fun tree n =>
      let parent := location.take n
      if (tree.get? parent).isSome then tree else tree.put parent .directory)
    tree

/-- Write a file, or make a directory when the path ends in a slash, together with the directories
on the way. -/
def store (tree : FileTree) (path : FilePath) (content : Bytes) (time : Nat) : FileTree :=
  let location := path.components
  let tree := tree.makeDirectories location
  if path.endsInSlash then tree.put location .directory else tree.put location (.file content time)

/-- Write a file that takes the place of the one that a path names, once everything is written: its
directory must exist, and the path must end in a name that is not the name of a directory. -/
def replace (tree : FileTree) (path : FilePath) (content : Bytes) (time : Nat) :
    Except IoFault FileTree := do
  let location ← tree.locate path
  if [".", ".."].contains (path.steps.getLast?.getD ".") then .error .resourceBusy
  if path.endsInSlash then .error .notADirectory
  match tree.get? location with
  | some .directory => .error .isADirectory
  | _ => .ok (tree.put location (.file content time))

/-- Remove a file; none if the path names no file. -/
def remove? (tree : FileTree) (path : FilePath) : Option FileTree :=
  match tree.locate path with
  | .ok location =>
    if tree.isFile path then some (tree.erase location) else none
  | .error _ => none

/-! ## Files that take the place of others -/

/-- Make an empty file in the directory that a path names, under a name that is free there. Gives
the location of the file with the changed tree. -/
def create (tree : FileTree) (directory : FilePath) (name : String) (time : Nat) :
    Except IoFault (Location × FileTree) := do
  match ← tree.find directory with
  | .file .. => .error .notADirectory
  | .directory =>
    let location := (← tree.locate directory) ++ [name]
    .ok (location, tree.put location (.file [] time))

/-- Write some bytes behind the content of a file. -/
def append (tree : FileTree) (location : Location) (bytes : Bytes) (time : Nat) : FileTree :=
  match tree.get? location with
  | some (.file content _) => tree.put location (.file (content ++ bytes) time)
  | _ => tree

/-- Move a file to where a path leads, in place of the file that may be there. -/
def rename (tree : FileTree) (source : Location) (path : FilePath) : Except IoFault FileTree :=
  match tree.get? source with
  | some (.file content modified) => (tree.erase source).replace path content modified
  | _ => .error .notFound

end FileTree

end ClipSplice

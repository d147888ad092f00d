import ClipSplice.Text.Blank

/-!
# File paths

A path is a text whose components are separated by slashes; one that starts with a slash is
absolute. Empty components and single dots stand for nothing, except that a path may start with a
dot.
-/

namespace ClipSplice

/-- The text of a path. -/
abbrev FilePath := String

namespace FilePath

/-- Whether a path is absolute. -/
def isAbsolute (path : FilePath) : Bool := path.toList.head? = some '/'

/-- The pieces of a text between its slashes; there is always at least one. -/
def splitSlashes : List Char → List (List Char)
  | [] => [[]]
  | c :: rest =>
    if c = '/' then [] :: splitSlashes rest
    else
      match splitSlashes rest with
      | [] => [[c]]
      | piece :: pieces => (c :: piece) :: pieces

/-- The steps that lead from the start of a path to its end, single dots included. -/
def steps (path : FilePath) : List String :=
  ((splitSlashes path.toList).map String.ofList).filter (· ≠ "")

/-- The components of a path from left to right. -/
def components (path : FilePath) : List String := path.steps.filter (· ≠ ".")

/-- Whether a path ends in a slash, so that it can only name a directory. -/
def endsInSlash (path : FilePath) : Bool := path.toList.getLast? = some '/'

/-- `name` as seen from the directory `base`: an absolute name stands for itself, any other is
put behind a slash. -/
def join (base name : FilePath) : FilePath :=
  if isAbsolute name then name
  else if base = "" || endsInSlash base then base ++ name
  else base ++ "/" ++ name

/-- The directory that holds what a path names; the working directory is written as a dot. -/
def directory (path : FilePath) : FilePath :=
  let parents := "/".intercalate (components path).dropLast
  if isAbsolute path then "/" ++ parents
  else if parents = "" then "."
  else parents

/-- The last component, if it is a name. -/
def fileName? (path : FilePath) : Option String :=
  (components path).getLast?.filter (· ≠ "..")

/-- The part of a name behind its last dot; a name that starts with its only dot has none. -/
def extensionOf? (name : String) : Option String :=
  let back := name.toList.reverse
  match back.span (· ≠ '.') with
  | (_, []) => none
  | (_, [_]) => none
  | (suffix, _ :: _ :: _) => some (String.ofList suffix.reverse)

/-- The extension of the file that a path names. -/
def extension? (path : FilePath) : Option String := (fileName? path).bind extensionOf?

end FilePath

end ClipSplice

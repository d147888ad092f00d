import ClipSplice.Audio.Probe
import ClipSplice.Rule.Basic
import ClipSplice.Splice.Stream

/-!
# Libraries

A library keeps main files and clips in two directories. For the name of a main file, a rule says
which clips go with it; `Library.playlist` finds the files, and `Library.combined` splices them.
-/

namespace ClipSplice

/-- What to do with a main file that cannot be spliced. -/
inductive MediaPolicy where
  /-- Serve the file as it is. -/
  | tolerant
  /-- Report an error. -/
  | strict
deriving Repr, DecidableEq

/-- Main files and clips in their directories. -/
structure Library where
  mainDir : FilePath
  clipDir : FilePath
  policy : MediaPolicy := .tolerant
deriving Repr, DecidableEq

/-- What is served for a name. -/
inductive Combined where
  | spliced (splice : Splice)
  /-- No clips apply: this file is served as it is. -/
  | verbatim (path : FilePath)

/-- What is served, as it is shown in messages. -/
def Combined.display : Combined → String
  | .spliced _ => "Spliced(..)"
  | .verbatim path => "Verbatim(" ++ Text.quotedPath path ++ ")"

namespace Library

/-- The library under a root directory. -/
def ofRoot (root : FilePath) : Library where
  mainDir := root.join "main"
  clipDir := (root.join "extra").join "master"

/-- A name without the slashes in front, so that it is taken from a directory. -/
def relative (name : String) : String :=
  .ofList (name.toList.dropWhile (· = '/'))

/-- Where a main file lies, whether or not it exists. -/
def mainPath (library : Library) (name : String) : FilePath :=
  library.mainDir.join (relative name)

/-- Where a clip lies, which has to exist. -/
def clipPath (library : Library) (tree : FileTree) (name : String) : Except Error FilePath :=
  let path := library.clipDir.join (relative name)
  if tree.isFile path then .ok path else .error (.missingResource path)

/-- The name of a file as rules see it: without one slash in front. -/
def ruleName (name : String) : String :=
  match name.toList with
  | '/' :: rest => .ofList rest
  | _ => name

/-- Why a file cannot be spliced, if that is so. -/
def unusable? (tree : FileTree) (path : FilePath) : Option Error :=
  match AudioParams.ofFile tree path with
  | .ok params => if params.vbr then some (.media path .variableBitrate) else none
  | .error e => some e

/-- The files of some symbols. Clips that do not exist are left out. -/
def filesOf (library : Library) (tree : FileTree) (symbols : List Symbol) : List FilePath :=
  symbols.filterMap fun symbol =>
    if symbol.isOriginal then some (library.mainPath symbol.text)
    else (library.clipPath tree symbol.text).toOption

/-- The files to splice for a name, in order. There are none when no rule applies, and when the
main file cannot be spliced and the policy is tolerant. -/
def playlist (library : Library) (tree : FileTree) (now : Instant) (name : String) (rule : Rule) :
    Except Error (List FilePath) :=
  let name := ruleName name
  match (rule.playlist? name now).getD [] with
  | [] => .ok []
  | symbols =>
    let main := library.mainPath name
    if !tree.isFile main then .error (.missingResource main)
    else
      match unusable? tree main, library.policy with
      | some e, .strict => .error e
      | some _, .tolerant => .ok []
      | none, _ => .ok (library.filesOf tree symbols)

/-- Splice a main file with its clips and frame the result with its tags. -/
def combined (library : Library) (tree : FileTree) (programs : Programs) (now : Instant)
    (name : String) (rule : Rule) (options : SpliceOptions) : Except Error Combined := do
  let main := library.mainPath name
  match ← library.playlist tree now name rule with
  | [] => if tree.isFile main then return .verbatim main else .error (.missingResource main)
  | files => return .spliced (← Splice.start tree programs files { options with tagSource := main })

end Library

end ClipSplice

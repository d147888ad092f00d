import ClipSplice.Document.Meaning
import ClipSplice.Error
import ClipSplice.RuleText.Meaning

/-!
# Rule files

A `RuleFile` is a rule with the file that it was loaded from. When the rule is asked for, the file
is looked at again, though not more often than the refresh interval says, and loaded if it is newer.
A file that cannot be loaded leaves the rule in place.
-/

namespace ClipSplice

/-- How a rule file is written. -/
inductive RuleFormat where
  | grammar
  | json
deriving Repr, DecidableEq

namespace RuleFormat

/-- The name of a format. -/
def name : RuleFormat → String
  | grammar => "Grammar"
  | json => "Json"

/-- The format of the file that a path names: `.json` and `.js` files hold documents, all others
rule text. -/
def ofPath (path : FilePath) : RuleFormat :=
  match path.extension? with
  | some "json" => json
  | some "js" => json
  | _ => grammar

/-- The rule that a text writes in a format. -/
def read (format : RuleFormat) (text : String) : Except Error Rule :=
  match format with
  | grammar => (Rule.ofText text).mapError .ruleText
  | json => (Rule.ofJson text).mapError .document

/-- The rule in a file. -/
def load (format : RuleFormat) (tree : FileTree) (path : FilePath) : Except Error Rule :=
  match tree.readText path with
  | .ok text => format.read text
  | .error fault => .error (.io fault)

end RuleFormat

/-- A rule and the file that it comes from. Times are counted in seconds. -/
structure RuleFile where
  path : FilePath
  format : RuleFormat
  /-- The least time between two looks at the file. -/
  refresh : Nat := 15
  rule : Rule
  /-- How often the rule was loaded anew. -/
  reloads : Nat := 0
  /-- When the file that was loaded was last changed. -/
  modified : Nat
  /-- When the file was last looked at. -/
  checked : Nat

namespace RuleFile

/-- Load the rule that a path names. -/
def openAs (tree : FileTree) (time : Nat) (path : FilePath) (format : RuleFormat) :
    Except Error RuleFile :=
  match tree.modified path with
  | .error fault => .error (.io fault)
  | .ok modified => do
    let rule ← format.load tree path
    return { path, format, rule, modified, checked := time }

/-- Load the rule that a path names, in the format that the path shows. -/
def openPath (tree : FileTree) (time : Nat) (path : FilePath) : Except Error RuleFile :=
  openAs tree time path (.ofPath path)

/-- Set the refresh interval. -/
def withRefresh (file : RuleFile) (refresh : Nat) : RuleFile := { file with refresh }

/-- Load the file in another format; in its own it is left as it is. -/
def withFormat (tree : FileTree) (time : Nat) (file : RuleFile) (format : RuleFormat) :
    Except Error RuleFile :=
  if format = file.format then .ok file
  else (openAs tree time file.path format).map fun opened => opened.withRefresh file.refresh

/-- Look at the file and load it if it has changed since it was loaded. -/
def reload (tree : FileTree) (file : RuleFile) : RuleFile :=
  match tree.modified file.path with
  | .error _ => file
  | .ok modified =>
    if modified ≤ file.modified then file
    else
      match file.format.load tree file.path with
      | .ok rule => { file with rule, modified, reloads := file.reloads + 1 }
      | .error _ => file

/-- The file after the rule was asked for. -/
def current (tree : FileTree) (time : Nat) (file : RuleFile) : RuleFile :=
  if time - file.checked < file.refresh then file
  else { file.reload tree with checked := time }

/-- The symbols for a name under the rule, and the file after the rule was asked for. -/
def evaluate (tree : FileTree) (time : Nat) (now : Instant) (name : String) (file : RuleFile) :
    Option (List Symbol) × RuleFile :=
  let file := file.current tree time
  (file.rule.playlist? name now, file)

/-- A length of time as it is shown in messages. -/
def durationText (seconds : Nat) : String :=
  if seconds = 0 then "0ns" else toString seconds ++ "s"

/-- A rule file as it is shown in messages. -/
def display (file : RuleFile) : String :=
  "RuleFile \x7b path: " ++ Text.quotedPath file.path ++ ", format: " ++ file.format.name ++
    ", refresh: " ++ durationText file.refresh ++ ", .. \x7d"

end RuleFile

end ClipSplice

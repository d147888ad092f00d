import ClipSplice.Audio.Cursor
import ClipSplice.Error

/-!
# Engines

An engine joins the audio of several files. The default engine takes from each file what lies
between its tags, up to the last complete frame, file after file; the others leave the work to an
external tool and pass on what it writes. A `Body` is audio in the making, from which
`Body.next` takes one chunk after the other.
-/

namespace ClipSplice

/-- How the audio of the spliced files is joined. -/
inductive Engine where
  | default
  /-- The tool is run on the files themselves. -/
  | sox (path : Option FilePath)
  /-- The tool is run on the concatenated files. -/
  | mp3cat (path : Option FilePath)
deriving Repr, DecidableEq

namespace Engine

/-- The name of an engine. -/
def name : Engine → String
  | .default => "default"
  | .sox _ => "sox"
  | .mp3cat _ => "mp3cat"

/-- The engine with a given name. Tools are then looked up by that name. -/
def named (name : String) : Except Error Engine :=
  if name = "default" then .ok .default
  else if name = "sox" then .ok (.sox none)
  else if name = "mp3cat" then .ok (.mp3cat none)
  else .error (.unknownEngine name)

/-- The engine with its tool at a certain path; the default engine has no tool. -/
def withPath (path : FilePath) : Engine → Engine
  | .default => .default
  | .sox _ => .sox (some path)
  | .mp3cat _ => .mp3cat (some path)

/-- An engine as it is shown in messages. -/
def display : Engine → String
  | .default => "Default"
  | .sox path => "Sox" ++ pathText path
  | .mp3cat path => "Mp3cat" ++ pathText path
where
  pathText : Option FilePath → String
    | none => " \x7b path: None \x7d"
    | some path => " \x7b path: Some(" ++ Text.quotedPath path ++ ") \x7d"

end Engine

/-! ## The output of a tool -/

/-- The status of the first program that failed. -/
def firstFailure (statuses : List ExitStatus) : Option ExitStatus :=
  statuses.foldl
    (fun failure status => if status.isSuccess then failure else failure.or (some status)) none

/-- The output of an external tool, as it is passed on. -/
structure ToolPipe where
  tool : String
  /-- How the programs that were started for it end, in the order in which they were started. -/
  children : List ExitStatus
  /-- What is left of the output of the last of them. -/
  output : Bytes
  /-- The end has been reached, and the programs have been waited for. -/
  finished : Bool := false
deriving Repr

/-- The next chunk of at most `size` bytes and what is left then. At the end of the output the
programs are waited for, and the first one that failed is reported. -/
def ToolPipe.next (size : Nat) (pipe : ToolPipe) : Option (Except Error Bytes) × ToolPipe :=
  if pipe.finished then (none, pipe)
  else
    match pipe.output.take size with
    | [] =>
      ((firstFailure pipe.children).map fun status =>
          .error (.toolFailed pipe.tool (.exited status)),
        { pipe with children := [], finished := true })
    | b :: rest => (some (.ok (b :: rest)), { pipe with output := pipe.output.drop size })

/-! ## The body of a splice -/

/-- Audio in the making. -/
inductive Body where
  /-- What is left of the file that is being read, and the files after it. -/
  | files (current : Bytes) (queue : List FilePath)
  /-- What is left of a tool's output. -/
  | tool (pipe : ToolPipe)
deriving Repr

/-- The audio of a file between its tags, up to the last complete frame. -/
def audioBetweenTags (file : Bytes) : Bytes :=
  let opened := (Cursor.takeId3v2 ⟨file, 0⟩).2
  let ended := opened.findId3v1 true
  (ended.2.take (ended.1.1 - ended.2.place)).1

namespace Body

/-- The next chunk from the files in a queue, of `size` bytes at most; files without audio are
passed over. A file that can be opened can be read to its end: what fails does so at once. -/
def nextFrom (tree : FileTree) (size : Nat) :
    List FilePath → Option (Except Error Bytes) × Body
  | [] => (none, .files [] [])
  | path :: queue =>
    match tree.read path with
    | .error fault => (some (.error (.io fault)), .files [] queue)
    | .ok file =>
      let audio := audioBetweenTags file
      match audio.take size with
      | [] => nextFrom tree size queue
      | b :: rest => (some (.ok (b :: rest)), .files (audio.drop size) queue)

/-- The next chunk of at most `size` bytes and what is left then; none at the end. -/
def next (tree : FileTree) (size : Nat) : Body → Option (Except Error Bytes) × Body
  | .files current queue =>
    match current.take size with
    | [] => nextFrom tree size queue
    | b :: rest => (some (.ok (b :: rest)), .files (current.drop size) queue)
  | .tool pipe => ((pipe.next size).1, .tool (pipe.next size).2)

/-- The files that are still to be opened. -/
def queue : Body → List FilePath
  | .files _ queue => queue
  | .tool _ => []

/-- A number of chunks that is not exceeded. -/
def bound (tree : FileTree) : Body → Nat
  | .files current queue =>
    queue.foldl (fun n path =>
      match tree.read path with
      | .ok file => n + file.length + 1
      | .error _ => n + 1) current.length
  | .tool pipe => pipe.output.length + 1

end Body

/-! ## Starting an engine -/

/-- The program to run for a tool: the one at the given path, or the one found by the tool's
name. -/
def locateTool (programs : Programs) (tool : String) (path : Option FilePath) :
    Except Error Program :=
  match path with
  | some path =>
    match programs path with
    | some program => .ok program
    | none => .error (.toolFailed tool .notStarted)
  | none =>
    match programs tool with
    | some program => .ok program
    | none => .error (.toolNotFound tool)

/-- Start an engine on files. External tools run at once. -/
def Engine.start (tree : FileTree) (programs : Programs) (files : List FilePath) :
    Engine → Except Error Body
  | .default => .ok (.files [] files)
  | .sox path => do
    let program ← locateTool programs "sox" path
    let run := program.run tree (files ++ ["-t", "mp3", "-"]) []
    .ok (.tool { tool := "sox", children := [run.status], output := run.output })
  | .mp3cat path => do
    let feeder ← locateTool programs "cat" none
    let program ← locateTool programs "mp3cat" path
    let feed := feeder.run tree files []
    let run := program.run tree ["-", "-"] feed.output
    .ok (.tool { tool := "mp3cat", children := [feed.status, run.status], output := run.output })

end ClipSplice

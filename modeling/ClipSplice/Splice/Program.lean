import ClipSplice.Storage.FileTree

/-!
# External programs

A program is what it makes of its arguments and its standard input: some output and an exit status.
`Programs` says which programs can be found by name; `Programs.plain` has the few that every system
has and that can stand in for an audio tool.
-/

namespace ClipSplice

/-! ## How a program ends -/

/-- How a program ended. -/
inductive ExitStatus where
  | code (n : Nat)
  /-- A signal ended it, perhaps with a dump of its memory. -/
  | signal (number : Nat) (dumped : Bool)
deriving Repr, DecidableEq

namespace ExitStatus

/-- Only a program that exits with code 0 has succeeded. -/
def isSuccess (status : ExitStatus) : Bool := status = .code 0

/-- The names of the signals with the numbers 1 to 31. -/
def signalNames : List String :=
  ["SIGHUP", "SIGINT", "SIGQUIT", "SIGILL", "SIGTRAP", "SIGABRT", "SIGBUS", "SIGFPE", "SIGKILL",
    "SIGUSR1", "SIGSEGV", "SIGUSR2", "SIGPIPE", "SIGALRM", "SIGTERM", "SIGSTKFLT", "SIGCHLD",
    "SIGCONT", "SIGSTOP", "SIGTSTP", "SIGTTIN", "SIGTTOU", "SIGURG", "SIGXCPU", "SIGXFSZ",
    "SIGVTALRM", "SIGPROF", "SIGWINCH", "SIGIO", "SIGPWR", "SIGSYS"]

/-- The words for an exit status. -/
def message : ExitStatus → String
  | .code n => "exit status: " ++ toString n
  | .signal number dumped =>
    let name :=
      match signalNames[number - 1]? with
      | some name => if number = 0 then "" else " (" ++ name ++ ")"
      | none => ""
    "signal: " ++ toString number ++ name ++ if dumped then " (core dumped)" else ""

end ExitStatus

/-- What a run of a program leaves behind. -/
structure ProgramRun where
  output : Bytes
  status : ExitStatus := .code 0
deriving Repr

/-! ## Programs -/

/-- A program, run over the files that exist. -/
structure Program where
  run : FileTree → (arguments : List String) → (input : Bytes) → ProgramRun

/-- The programs that can be found, by name. -/
abbrev Programs := String → Option Program

namespace Program

/-- Shows a byte that does not print by a caret or an `M-` and a character that does; line feeds
stay as they are. -/
def visibleByte (b : UInt8) : Bytes :=
  let low (n : Nat) : List Nat := if n < 32 then [94, n + 64] else if n = 127 then [94, 63] else [n]
  let n := b.toNat
  if n = 10 then [b]
  else ((if 128 ≤ n then [77, 45] ++ low (n - 128) else low n).map Nat.toUInt8)

/-- Writes its input, or the files that it is given, one after the other; a file that cannot be
read is left out and makes the run fail. With `-t` bytes that do not print are shown visibly. -/
def cat : Program where
  run tree arguments input :=
    let options := arguments.filter fun a => a ≠ "-" && a.toList.head? = some '-'
    let operands := arguments.filter fun a => a = "-" || a.toList.head? ≠ some '-'
    let operands := if operands.isEmpty then ["-"] else operands
    let (output, failed, _) := operands.foldl
      (fun (output, failed, input) operand =>
        if operand = "-" then (output ++ input, failed, [])
        else
          match tree.read operand with
          | .ok content => (output ++ content, failed, input)
          | .error _ => (output, true, input))
      (([] : Bytes), false, input)
    { output := if options.contains "-t" then output.flatMap visibleByte else output
      status := .code (if failed then 1 else 0) }

/-- Writes its arguments, with blanks between them and a line feed behind, which `-n` leaves out. -/
def echo : Program where
  run _ arguments _ :=
    let words := arguments.dropWhile fun a => a = "-n" || a = "-E"
    let silent := (arguments.takeWhile fun a => a = "-n" || a = "-E").contains "-n"
    { output := (" ".intercalate words ++ if silent then "" else "\n").toUTF8.toList }

/-- Does nothing and succeeds. -/
def succeed : Program where
  run _ _ _ := { output := [] }

/-- Does nothing and fails. -/
def fail : Program where
  run _ _ _ := { output := [], status := .code 1 }

end Program

/-- The programs of a plain system. -/
def Programs.plain : Programs
  | "cat" | "/bin/cat" | "/usr/bin/cat" => some .cat
  | "echo" | "/bin/echo" | "/usr/bin/echo" => some .echo
  | "true" | "/bin/true" | "/usr/bin/true" => some .succeed
  | "false" | "/bin/false" | "/usr/bin/false" => some .fail
  | _ => none

end ClipSplice

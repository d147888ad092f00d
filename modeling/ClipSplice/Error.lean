import ClipSplice.Audio.Params
import ClipSplice.Document.Fault
import ClipSplice.RuleText.Fault
import ClipSplice.Splice.Program

/-!
# Errors

Everything that can go wrong while rules are loaded, audio is inspected and files are spliced, with
one function for the wording.
-/

namespace ClipSplice

/-- Why a file is not usable audio. -/
inductive MediaFault where
  | noFrameHeader
  | variableBitrate
  | io (fault : IoFault)
deriving Repr, DecidableEq

/-- The words for a media fault. -/
def MediaFault.message : MediaFault → String
  | .noFrameHeader => "no MPEG audio frame header found"
  | .variableBitrate => "variable bitrate audio cannot be spliced"
  | .io fault => fault.kind

/-- Why an external tool failed. -/
inductive ToolFault where
  | notStarted
  /-- It ended with this exit status. -/
  | exited (status : ExitStatus)
deriving Repr, DecidableEq

/-- The words for a tool's fault. -/
def ToolFault.message : ToolFault → String
  | .notStarted => "failed to spawn"
  | .exited status => "exited with " ++ status.message

/-- Any error. -/
inductive Error where
  | ruleText (fault : RuleText.Fault)
  | document (fault : Document.Fault)
  | io (fault : IoFault)
  | media (path : FilePath) (fault : MediaFault)
  | mismatch (mismatch : Mismatch)
  | missingResource (path : FilePath)
  | toolNotFound (tool : String)
  | toolFailed (tool : String) (fault : ToolFault)
  | unknownEngine (name : String)
deriving Repr, DecidableEq

/-- The sentence that reports an error. -/
def Error.message : Error → String
  | .ruleText fault => fault.display
  | .document fault => fault.message
  | .io fault => fault.kind
  | .media path fault => path ++ ": " ++ fault.message
  | .mismatch m => m.message
  | .missingResource path => "resource not found: " ++ path
  | .toolNotFound tool => tool ++ " not found"
  | .toolFailed tool fault => tool ++ " failed: " ++ fault.message
  | .unknownEngine name => "unknown splicing engine: " ++ name

end ClipSplice

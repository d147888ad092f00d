import ClipSplice.Library
import ClipSplice.RuleFile

/-!
# Settings

The settings with which a host uses the library, as a JSON record in which every field may be
missing.
-/

namespace ClipSplice

open Document

/-- The settings. -/
structure Config where
  ruleFile : Option FilePath := none
  /-- Seconds between two looks at the rule file. -/
  refreshSeconds : Nat := 15
  engine : String := "default"
  /-- The program of the engine, where it is not found by its name. -/
  enginePath : Option FilePath := none
  chunkSize : Nat := defaultChunkSize
  policy : MediaPolicy := .tolerant
  /-- The directory of the library. -/
  libraryRoot : Option FilePath := none
deriving Repr, DecidableEq

namespace MediaPolicy

/-- The name of a policy. -/
def name : MediaPolicy → String
  | tolerant => "Tolerant"
  | strict => "Strict"

/-- The word for a policy in documents. -/
def word : MediaPolicy → String
  | tolerant => "tolerant"
  | strict => "strict"

/-- The policy that a word stands for. -/
def ofWord? : String → Option MediaPolicy
  | "tolerant" => some tolerant
  | "strict" => some strict
  | _ => none

/-- The policy that a value states: a word, or an object with the word as its only name. -/
def ofJson? : Json → Option MediaPolicy
  | .string (some word) => ofWord? word
  | .object [(some word, .null)] => ofWord? word
  | _ => none

end MediaPolicy

namespace Config

/-- The names of the settings in documents, in order. -/
def fieldNames : List String :=
  ["rule_file", "refresh_secs", "engine", "engine_path", "chunk_size", "media_policy",
    "library_root"]

/-- The settings that a value states. -/
def ofJson? (value : Json) : Option Config := do
  let fields ← recordOf fieldNames value
  return {
    ruleFile := ← optionalField fields "rule_file" textOf
    refreshSeconds := ← withDefault fields "refresh_secs" (naturalOf 64) 15
    engine := ← withDefault fields "engine" textOf "default"
    enginePath := ← optionalField fields "engine_path" textOf
    chunkSize := ← withDefault fields "chunk_size" (naturalOf 64) defaultChunkSize
    policy := ← withDefault fields "media_policy" MediaPolicy.ofJson? .tolerant
    libraryRoot := ← optionalField fields "library_root" textOf }

/-- The settings that a text states. -/
def ofText? (text : String) : Option Config := (Json.ofText? text).bind ofJson?

/-- A path, or `null`. -/
def pathToJson : Option FilePath → Json
  | none => .null
  | some path => .string (some path)

/-- The value that states some settings. -/
def toJson (config : Config) : Json :=
  .object (fieldNames.map some |>.zip
    [pathToJson config.ruleFile, .number (.integer config.refreshSeconds),
      .string (some config.engine), pathToJson config.enginePath,
      .number (.integer config.chunkSize), .string (some config.policy.word),
      pathToJson config.libraryRoot])

/-- The rule file, if there is one. -/
def openRuleFile (config : Config) (tree : FileTree) (time : Nat) :
    Except Error (Option RuleFile) :=
  match config.ruleFile with
  | none => .ok none
  | some path =>
    (RuleFile.openPath tree time path).map fun file => some (file.withRefresh config.refreshSeconds)

/-- The engine. -/
def makeEngine (config : Config) : Except Error Engine := do
  let engine ← Engine.named config.engine
  match config.enginePath with
  | none => return engine
  | some path => return engine.withPath path

/-- The settings of splices. -/
def spliceOptions (config : Config) : Except Error SpliceOptions := do
  let options : SpliceOptions := { engine := ← config.makeEngine }
  return options.withChunkSize config.chunkSize

/-- The library, if a directory is set. -/
def library? (config : Config) : Option Library :=
  config.libraryRoot.map fun root => { Library.ofRoot root with policy := config.policy }

end Config

end ClipSplice

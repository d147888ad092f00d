import ClipSplice.Proofs.SpliceRun
import ClipSplice.Proofs.TagReading

/-!
# The output of a tool

A tool is one program or two that run at once, and its output is what the last of them writes. A
splice passes it on in chunks between the tags of the tag source. Only behind the last chunk does it
ask how the programs ended, and one that failed takes the place of the tail
(`Splice.next_afterCalls_start_tool`).
-/

namespace ClipSplice

/-! ## Full pieces -/

/-- Some bytes cut into pieces that are all of one size but for the last one, which may be
shorter. -/
structure IsCut (size : Nat) (bytes : Bytes) (chunks : List Bytes) : Prop where
  flatten : chunks.flatten = bytes
  full : ∀ chunk ∈ chunks.dropLast, chunk.length = size
  nonempty : ∀ chunk ∈ chunks, 0 < chunk.length
  length_le : ∀ chunk ∈ chunks, chunk.length ≤ size

/-- Every piece but the last one is full. -/
theorem length_of_mem_dropLast_pieces {size : Nat} (hsize : 0 < size) {bytes piece : Bytes}
    (hmem : piece ∈ (pieces size bytes).dropLast) : piece.length = size := by
  induction bytes using pieces_induction hsize with
  | nil =>
    rw [pieces_nil hsize] at hmem
    exact absurd hmem List.not_mem_nil
  | cons bytes hne ih =>
    rw [pieces_of_ne_nil hsize hne] at hmem
    by_cases hmore : bytes.drop size = []
    · rw [hmore, pieces_nil hsize] at hmem
      exact absurd hmem List.not_mem_nil
    · -- another piece follows the first one, which is full then
      have hrest : pieces size (bytes.drop size) ≠ [] := by
        rw [pieces_of_ne_nil hsize hmore]
        exact List.cons_ne_nil _ _
      rw [List.dropLast_cons_of_ne_nil hrest, List.mem_cons] at hmem
      rcases hmem with rfl | hmem
      · rw [List.drop_eq_nil_iff] at hmore
        exact List.length_take_of_le (by omega)
      · exact ih hmem

theorem length_le_of_mem_pieces {size : Nat} {bytes piece : Bytes}
    (hmem : piece ∈ pieces size bytes) : piece.length ≤ size := by
  obtain ⟨i, -, rfl⟩ := List.mem_map.1 hmem
  exact List.length_take_le _ _

theorem isCut_pieces {size : Nat} (hsize : 0 < size) (bytes : Bytes) :
    IsCut size bytes (pieces size bytes) where
  flatten := flatten_pieces hsize bytes
  full _ hmem := length_of_mem_dropLast_pieces hsize hmem
  nonempty _ hmem := List.length_pos_iff.2 (ne_nil_of_mem_pieces hsize hmem)
  length_le _ hmem := length_le_of_mem_pieces hmem

/-! ## Programs that failed -/

/-- Going on after the first failure changes nothing. -/
theorem firstFailure_eq_find? (statuses : List ExitStatus) :
    firstFailure statuses = statuses.find? fun status => !status.isSuccess := by
  have hfold : ∀ failure : Option ExitStatus,
      statuses.foldl (fun failure status =>
          if status.isSuccess then failure else failure.or (some status)) failure =
        failure.or (statuses.find? fun status => !status.isSuccess) := by
    -- the failure that was found so far stands in front of the statuses that are left
    induction statuses with
    | nil => exact fun failure => (Option.or_none).symm
    | cons status statuses ih =>
      intro failure
      rw [List.foldl_cons, ih, List.find?_cons]
      cases status.isSuccess with
      | true => rfl
      | false =>
        rw [if_neg Bool.false_ne_true, Option.or_assoc]
        rfl
  exact (hfold none).trans Option.none_or

example : firstFailure [.code 0, .signal 13 false, .code 2] = some (.signal 13 false) := rfl

/-! ## The programs of an engine -/

/-- What an engine runs on some files: the programs that feed the last one, in the order in which
they are started, and the last one itself. -/
inductive Engine.Launches (tree : FileTree) (programs : Programs) (files : List FilePath) :
    Engine → List ProgramRun → ProgramRun → Prop where
  | sox {path : Option FilePath} {program : Program}
      (hprogram : locateTool programs "sox" path = .ok program) :
      Launches tree programs files (.sox path) []
        (program.run tree (files ++ ["-t", "mp3", "-"]) [])
  | mp3cat {path : Option FilePath} {feeder program : Program}
      (hfeeder : locateTool programs "cat" none = .ok feeder)
      (hprogram : locateTool programs "mp3cat" path = .ok program) :
      Launches tree programs files (.mp3cat path) [feeder.run tree files []]
        (program.run tree ["-", "-"] (feeder.run tree files []).output)

theorem Engine.Launches.start_eq {tree : FileTree} {programs : Programs} {files : List FilePath}
    {engine : Engine} {feeders : List ProgramRun} {last : ProgramRun}
    (hlaunch : engine.Launches tree programs files feeders last) :
    engine.start tree programs files =
      .ok (.tool { tool := engine.name
                   children := (feeders ++ [last]).map ProgramRun.status
                   output := last.output }) := by
  cases hlaunch with
  | sox hprogram =>
    rw [Engine.start, hprogram]
    rfl
  | mp3cat hfeeder hprogram =>
    rw [Engine.start, hfeeder, hprogram]
    rfl

namespace Splice

/-- What a splice has to produce of the output of a tool: the pieces of the head and those of the
output, then the first failure among the programs, or the tail as one piece if there is none. -/
def toolItems (size : Nat) (head : Bytes) (tail : Option Bytes) (tool : String) (output : Bytes)
    (statuses : List ExitStatus) : List Item :=
  (pieces size head).map .ok ++ (pieces size output).map .ok ++
    match statuses.find? fun status => !status.isSuccess with
    | some status => [.error (.toolFailed tool (.exited status))]
    | none => (tail.map .ok).toList

theorem framed_tool (tree : FileTree) (size : Nat) {tail : Option Bytes} (htail : tail ≠ some [])
    (tool : String) (output : Bytes) (statuses : List ExitStatus) :
    framed (tail.getD [])
        (Body.remaining tree size (.tool { tool, children := statuses, output })) =
      (pieces size output).map .ok ++
        match statuses.find? fun status => !status.isSuccess with
        | some status => [.error (.toolFailed tool (.exited status))]
        | none => (tail.map .ok).toList := by
  rw [Body.remaining, if_neg Bool.false_ne_true, firstFailure_eq_find?]
  cases statuses.find? fun status => !status.isSuccess with
  | some status => rw [Option.map_some, framed]
  | none => rw [Option.map_none, framed_none htail]

theorem pending_tool (tree : FileTree) (size : Nat) (head : Bytes) {tail : Option Bytes}
    (htail : tail ≠ some []) (tool : String) (output : Bytes) (statuses : List ExitStatus) :
    pending tree ⟨size, .head, head, 0, .tool { tool, children := statuses, output },
        tail.getD []⟩ =
      toolItems size head tail tool output statuses := by
  rw [pending_begin, framed_tool tree size htail, toolItems, List.append_assoc]

/-- A splice by a tool cannot be started when its tag source cannot be read. Otherwise its calls of
`next` answer the pieces of the head, the pieces of what the last program writes, and then the tail,
or, in place of it, the failure of the first program that did not succeed; from then on they answer
nothing. Draining gives just these pieces. -/
theorem next_afterCalls_start_tool (tree : FileTree) (programs : Programs) (files : List FilePath)
    (options : SpliceOptions) {feeders : List ProgramRun} {last : ProgramRun}
    (hlaunch : options.engine.Launches tree programs files feeders last)
    (hsize : 0 < options.chunkSize) :
    match framingTags tree options.tagSource with
    | .error fault => start tree programs files options = .error (.io fault)
    | .ok (head, tail) =>
      let items := toolItems options.chunkSize head tail options.engine.name last.output
        ((feeders ++ [last]).map ProgramRun.status)
      ∃ s, start tree programs files options = .ok s ∧
        (∀ n, ((s.afterCalls tree n).next tree).1 = items[n]?) ∧
        (s.drain tree).1 = items ∧
        IsCut options.chunkSize head (pieces options.chunkSize head) ∧
        IsCut options.chunkSize last.output (pieces options.chunkSize last.output) := by
  rw [start_of_engine hlaunch.start_eq]
  cases htags : framingTags tree options.tagSource with
  | error fault => rfl
  | ok tags =>
    obtain ⟨head, tail⟩ := tags
    have hpending := pending_tool tree options.chunkSize head (framingTags_tail_ne htags)
      options.engine.name last.output ((feeders ++ [last]).map ProgramRun.status)
    refine ⟨_, rfl, fun n => ?_, ?_, isCut_pieces hsize head, isCut_pieces hsize last.output⟩
    · rw [next_afterCalls hsize, hpending]
    · rw [drain_eq_pending hsize, hpending]

/-- A feeder that a signal ended and a tool that exits with code 2, between the tags of a file: the
last chunk is short, the end of the feeder is reported, and the ID3v1 tag is left out. -/
theorem next_afterCalls_start_tool_broken_pipe :
    let tag : Bytes := Id3v2.headerBytes 3 0 0 2 ++ [8, 9]
    let trailer : Bytes := Id3v1.marker ++ List.replicate 125 32
    let tree : FileTree := ⟨[(["t"], .file (tag ++ trailer) 0)]⟩
    let programs : Programs := fun name =>
      if name = "cat" then some ⟨fun _ _ _ => ⟨[1], .signal 13 false⟩⟩
      else some ⟨fun _ _ _ => ⟨[1, 2, 3, 4, 5, 6, 7, 8], .code 2⟩⟩
    ∃ s, start tree programs ["a"] ⟨5, some "t", .mp3cat none⟩ = .ok s ∧
      (s.drain tree).1 =
        [.ok [73, 68, 51, 3, 0], .ok [0, 0, 0, 0, 2], .ok [8, 9], .ok [1, 2, 3, 4, 5],
          .ok [6, 7, 8], .error (.toolFailed "mp3cat" (.exited (.signal 13 false)))] ∧
      ∀ n, 6 ≤ n → ((s.afterCalls tree n).next tree).1 = none := by
  intro tag trailer tree programs
  have hitems : toolItems 5 (Id3v2.headerBytes 3 0 0 2 ++ [8, 9]) (some trailer) "mp3cat"
      [1, 2, 3, 4, 5, 6, 7, 8] [.signal 13 false, .code 2] =
        [.ok [73, 68, 51, 3, 0], .ok [0, 0, 0, 0, 2], .ok [8, 9], .ok [1, 2, 3, 4, 5],
          .ok [6, 7, 8], .error (.toolFailed "mp3cat" (.exited (.signal 13 false)))] := rfl
  have htag : Id3v2.IsTag tag :=
    Id3v2.isTag_of_not_flagged rfl (by decide : ([8, 9] : Bytes).length < 2 ^ 28)
  have hhead : Id3v2.read (tag ++ trailer) = tag := by
    rw [htag.read_append, if_neg (by decide), List.append_nil]
  have htail : Id3v1.ofFile? (tag ++ trailer) = some trailer :=
    Id3v1.ofFile?_append tag ⟨rfl, List.replicate 125 32, rfl⟩
  have hframing : framingTags tree (some "t") = .ok (tag, some trailer) := by
    have hread : tree.read "t" = .ok (tag ++ trailer) := rfl
    simp only [framingTags, hread, hhead, htail]
  have hrun := next_afterCalls_start_tool tree programs ["a"] ⟨5, some "t", .mp3cat none⟩
    (.mp3cat rfl rfl) (by decide)
  rw [hframing] at hrun
  obtain ⟨s, hstart, hnext, hdrain, -⟩ := hrun
  refine ⟨s, hstart, hdrain.trans hitems, fun n hn => ?_⟩
  exact (hnext n).trans ((congrArg (·[n]?) hitems).trans (List.getElem?_eq_none hn))

end Splice

end ClipSplice

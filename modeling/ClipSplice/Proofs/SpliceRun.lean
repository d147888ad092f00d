import ClipSplice.Proofs.TagFraming
import ClipSplice.Splice.Stream

/-!
# What a splice produces

`Splice.pending` tells, for every state of a splice, the pieces that are still to come. One step
answers with the first of them, or with nothing when there are none, and leaves the others
(`answers_next`). Whole runs follow: the answer to the call with number `n` is the pending piece
with number `n` (`next_afterCalls`), and `drain` gives all of them (`drain_eq_pending`).
-/

namespace ClipSplice

/-! ## Cutting bytes into pieces -/

/-- Some bytes cut into pieces of `size` bytes, of which the last may be shorter. -/
def pieces (size : Nat) (bytes : Bytes) : List Bytes :=
  (List.range ((bytes.length + size - 1) / size)).map fun i => (bytes.drop (i * size)).take size

@[simp] theorem pieces_nil {size : Nat} (hsize : 0 < size) : pieces size [] = [] := by
  have hnone : (0 + size - 1) / size = 0 := Nat.div_eq_of_lt (by omega)
  simp only [pieces, List.length_nil, hnone, List.range_zero, List.map_nil]

/-- The first piece, and the pieces of the rest. -/
theorem pieces_of_ne_nil {size : Nat} (hsize : 0 < size) {bytes : Bytes} (hne : bytes ≠ []) :
    pieces size bytes = bytes.take size :: pieces size (bytes.drop size) := by
  have hpos : 0 < bytes.length := List.length_pos_iff.2 hne
  have hcount : (bytes.length + size - 1) / size =
      ((bytes.drop size).length + size - 1) / size + 1 := by
    rw [List.length_drop]
    -- a first piece that is not full is the only one
    by_cases hle : size ≤ bytes.length
    · rw [show bytes.length + size - 1 = bytes.length - size + size - 1 + size from by omega,
        Nat.add_div_right _ hsize]
    · rw [show bytes.length + size - 1 = bytes.length - 1 + size from by omega,
        Nat.add_div_right _ hsize, Nat.div_eq_of_lt (by omega), Nat.div_eq_of_lt (by omega)]
  unfold pieces
  rw [hcount, List.range_succ_eq_map, List.map_cons, List.map_map, Nat.zero_mul, List.drop_zero]
  congr 1
  refine List.map_congr_left fun i _ => ?_
  simp only [Function.comp, List.drop_drop]
  congr 2
  rw [Nat.succ_mul, Nat.add_comm]

/-- Induction over the pieces of some bytes. -/
theorem pieces_induction {size : Nat} (hsize : 0 < size) {motive : Bytes → Prop}
    (nil : motive [])
    (cons : ∀ bytes, bytes ≠ [] → motive (bytes.drop size) → motive bytes) (bytes : Bytes) :
    motive bytes := by
  induction hlen : bytes.length using Nat.strongRecOn generalizing bytes with
  | ind n ih =>
    by_cases hne : bytes = []
    · exact hne ▸ nil
    · have hpos : 0 < bytes.length := List.length_pos_iff.2 hne
      exact cons bytes hne (ih _ (by rw [List.length_drop]; omega) _ rfl)

/-- Cutting loses nothing. -/
theorem flatten_pieces {size : Nat} (hsize : 0 < size) (bytes : Bytes) :
    (pieces size bytes).flatten = bytes := by
  induction bytes using pieces_induction hsize with
  | nil => rw [pieces_nil hsize, List.flatten_nil]
  | cons bytes hne ih =>
    rw [pieces_of_ne_nil hsize hne, List.flatten_cons, ih, List.take_append_drop]

/-- What is taken of some bytes is not empty. -/
theorem exists_cons_of_take {size : Nat} (hsize : 0 < size) {bytes : Bytes} (hne : bytes ≠ []) :
    ∃ b rest, bytes.take size = b :: rest := by
  refine List.exists_cons_of_ne_nil fun hnil => ?_
  rcases List.take_eq_nil_iff.1 hnil with h | h
  · omega
  · exact hne h

/-- No piece is empty. -/
theorem ne_nil_of_mem_pieces {size : Nat} (hsize : 0 < size) {bytes piece : Bytes}
    (hmem : piece ∈ pieces size bytes) : piece ≠ [] := by
  induction bytes using pieces_induction hsize with
  | nil => rw [pieces_nil hsize] at hmem; exact absurd hmem List.not_mem_nil
  | cons bytes hne ih =>
    rw [pieces_of_ne_nil hsize hne, List.mem_cons] at hmem
    rcases hmem with rfl | hmem
    · obtain ⟨b, rest, hcons⟩ := exists_cons_of_take hsize hne
      rw [hcons]
      exact List.cons_ne_nil b rest
    · exact ih hmem

/-- There are no more pieces than bytes. -/
theorem length_pieces_le {size : Nat} (hsize : 0 < size) (bytes : Bytes) :
    (pieces size bytes).length ≤ bytes.length := by
  induction bytes using pieces_induction hsize with
  | nil => rw [pieces_nil hsize]; exact Nat.le_refl 0
  | cons bytes hne ih =>
    have hpos : 0 < bytes.length := List.length_pos_iff.2 hne
    rw [List.length_drop] at ih
    rw [pieces_of_ne_nil hsize hne, List.length_cons]
    omega

/-! ## The audio of several files -/

/-- The contents of files in order, up to the first one that cannot be read, and why not. -/
def FileTree.readAll (tree : FileTree) : List FilePath → List Bytes × Option IoFault
  | [] => ([], none)
  | path :: rest =>
    match tree.read path with
    | .error fault => ([], some fault)
    | .ok file => (file :: (tree.readAll rest).1, (tree.readAll rest).2)

/-- The bytes of a file from behind its ID3v2 tag to the corrected end of its audio; none when that
end lies in front of the end of the tag. -/
def audioSpan (file : Bytes) : Bytes :=
  let start := (Id3v2.read file).length
  let stop := (Id3v1.read file true).1
  (file.drop start).take (stop - start)

/-- The cursor reads just this span. -/
theorem audioBetweenTags_eq_audioSpan (file : Bytes) : audioBetweenTags file = audioSpan file := by
  have hread := Id3v2.length_read_le file
  simp only [audioBetweenTags, audioSpan, Cursor.takeId3v2_eq, Cursor.findId3v1_eq, Cursor.take,
    Cursor.rest, List.drop_zero, List.length_take, Nat.zero_add, Nat.min_eq_left hread]

namespace Body

variable {tree : FileTree} {size : Nat}

/-- The chunks that are still to come from a body, and the error that follows them. -/
def remaining (tree : FileTree) (size : Nat) : Body → List Bytes × Option Error
  | .files current queue =>
    (pieces size current ++ (tree.readAll queue).1.flatMap fun file => pieces size (audioSpan file),
      (tree.readAll queue).2.map .io)
  | .tool pipe =>
    if pipe.finished then ([], none)
    else (pieces size pipe.output,
      (firstFailure pipe.children).map fun status => .toolFailed pipe.tool (.exited status))

/-! A body of files goes on with the current file, or opens the next one. -/

theorem next_files_of_ne_nil (hsize : 0 < size) {current : Bytes} (hne : current ≠ [])
    (queue : List FilePath) :
    next tree size (.files current queue) =
      (some (.ok (current.take size)), .files (current.drop size) queue) := by
  obtain ⟨b, rest, hcons⟩ := exists_cons_of_take hsize hne
  rw [next, hcons]

theorem next_files_nil_nil :
    next tree size (.files [] []) = (none, .files [] []) := by
  rw [next, List.take_nil, nextFrom]

theorem next_files_nil_of_error {path : FilePath} {fault : IoFault}
    (hread : tree.read path = .error fault) (queue : List FilePath) :
    next tree size (.files [] (path :: queue)) =
      (some (.error (.io fault)), .files [] queue) := by
  rw [next, List.take_nil, nextFrom, hread]

theorem next_files_nil_of_ok {path : FilePath} {file : Bytes}
    (hread : tree.read path = .ok file) (queue : List FilePath) :
    next tree size (.files [] (path :: queue)) =
      next tree size (.files (audioSpan file) queue) := by
  rw [next, List.take_nil, nextFrom, hread, next]
  simp only [audioBetweenTags_eq_audioSpan]

theorem remaining_files_of_ne_nil (hsize : 0 < size) {current : Bytes} (hne : current ≠ [])
    (queue : List FilePath) :
    remaining tree size (.files current queue) =
      (current.take size :: (remaining tree size (.files (current.drop size) queue)).1,
        (remaining tree size (.files (current.drop size) queue)).2) := by
  simp only [remaining, pieces_of_ne_nil hsize hne, List.cons_append]

theorem remaining_files_nil_nil (hsize : 0 < size) :
    remaining tree size (.files [] []) = ([], none) := by
  rw [remaining, pieces_nil hsize]
  rfl

theorem remaining_files_nil_of_error (hsize : 0 < size) {path : FilePath} {fault : IoFault}
    (hread : tree.read path = .error fault) (queue : List FilePath) :
    remaining tree size (.files [] (path :: queue)) = ([], some (.io fault)) := by
  simp only [remaining, pieces_nil hsize, FileTree.readAll, hread, List.flatMap_nil,
    List.append_nil, Option.map_some]

theorem remaining_files_nil_of_ok (hsize : 0 < size) {path : FilePath} {file : Bytes}
    (hread : tree.read path = .ok file) (queue : List FilePath) :
    remaining tree size (.files [] (path :: queue)) =
      remaining tree size (.files (audioSpan file) queue) := by
  rw [remaining, remaining, pieces_nil hsize, FileTree.readAll, hread]
  rw [List.flatMap_cons, List.nil_append]

/-- What the next answer of a body of files is, and what is to come after it. -/
private theorem next_files (hsize : 0 < size) (current : Bytes) (queue : List FilePath) :
    match remaining tree size (.files current queue) with
    | (chunk :: chunks, e) => ∃ body, next tree size (.files current queue) =
        (some (.ok chunk), body) ∧ body.remaining tree size = (chunks, e)
    | ([], e) => ∃ body, next tree size (.files current queue) = (e.map .error, body) := by
  -- one call may open many files, so the induction is on the queue, for every current file
  induction queue generalizing current with
  | nil =>
    by_cases hne : current = []
    · subst hne
      rw [remaining_files_nil_nil hsize, next_files_nil_nil]
      exact ⟨_, rfl⟩
    · rw [remaining_files_of_ne_nil hsize hne, next_files_of_ne_nil hsize hne]
      exact ⟨_, rfl, rfl⟩
  | cons path queue ih =>
    by_cases hne : current = []
    · subst hne
      cases hread : tree.read path with
      | error fault =>
        rw [remaining_files_nil_of_error hsize hread, next_files_nil_of_error hread]
        exact ⟨_, rfl⟩
      | ok file =>
        -- a file without audio gives no chunk, so the next one is opened by the same call
        rw [remaining_files_nil_of_ok hsize hread, next_files_nil_of_ok hread]
        exact ih (audioSpan file)
    · rw [remaining_files_of_ne_nil hsize hne, next_files_of_ne_nil hsize hne]
      exact ⟨_, rfl, rfl⟩

/-- The same for the output of a tool. -/
private theorem next_tool (hsize : 0 < size) (pipe : ToolPipe) :
    match remaining tree size (.tool pipe) with
    | (chunk :: chunks, e) => ∃ body, next tree size (.tool pipe) = (some (.ok chunk), body) ∧
        body.remaining tree size = (chunks, e)
    | ([], e) => ∃ body, next tree size (.tool pipe) = (e.map .error, body) := by
  obtain ⟨tool, children, output, finished⟩ := pipe
  cases finished with
  | true => exact ⟨_, rfl⟩
  | false =>
    by_cases hne : output = []
    · subst hne
      simp only [remaining, Bool.false_eq_true, if_false, pieces_nil hsize, next, ToolPipe.next,
        List.take_nil]
      exact ⟨_, by cases firstFailure children <;> rfl⟩
    · obtain ⟨b, rest, hcons⟩ := exists_cons_of_take hsize hne
      simp only [remaining, Bool.false_eq_true, if_false, pieces_of_ne_nil hsize hne, next,
        ToolPipe.next, hcons]
      exact ⟨_, rfl, rfl⟩

/-- While chunks are to come from a body, its next answer is the first of them; after them it is
the error, if there is one. -/
theorem next_spec (tree : FileTree) (hsize : 0 < size) (body : Body) :
    match body.remaining tree size with
    | (chunk :: chunks, e) => ∃ body', body.next tree size = (some (.ok chunk), body') ∧
        body'.remaining tree size = (chunks, e)
    | ([], e) => ∃ body', body.next tree size = (e.map .error, body') := by
  cases body with
  | files current queue => exact next_files hsize current queue
  | tool pipe => exact next_tool hsize pipe

theorem next_of_remaining_cons (hsize : 0 < size) {body : Body} {chunk : Bytes}
    {chunks : List Bytes} {e : Option Error}
    (hrem : body.remaining tree size = (chunk :: chunks, e)) :
    ∃ body', body.next tree size = (some (.ok chunk), body') ∧
      body'.remaining tree size = (chunks, e) := by
  have hnext := next_spec tree hsize body
  rwa [hrem] at hnext

theorem next_of_remaining_nil (hsize : 0 < size) {body : Body} {e : Option Error}
    (hrem : body.remaining tree size = ([], e)) :
    ∃ body', body.next tree size = (e.map .error, body') := by
  have hnext := next_spec tree hsize body
  rwa [hrem] at hnext

/-! A body never gives more chunks than its bound says. -/

theorem length_audioSpan_le (file : Bytes) : (audioSpan file).length ≤ file.length := by
  simp only [audioSpan, List.length_take, List.length_drop]
  omega

private theorem le_foldl_bound (tree : FileTree) (hsize : 0 < size) (queue : List FilePath)
    (n : Nat) :
    n + ((tree.readAll queue).1.flatMap fun file => pieces size (audioSpan file)).length ≤
      queue.foldl (fun n path =>
        match tree.read path with
        | .ok file => n + file.length + 1
        | .error _ => n + 1) n := by
  -- the bound is summed from the left, so what stands in front of a file is any number `n`
  induction queue generalizing n with
  | nil => exact Nat.le_refl n
  | cons path queue ih =>
    rw [List.foldl_cons, FileTree.readAll]
    cases tree.read path with
    | error fault =>
      have hmore := ih (n + 1)
      simp only [List.flatMap_nil, List.length_nil] at hmore ⊢
      omega
    | ok file =>
      have hmore := ih (n + file.length + 1)
      have hpieces := length_pieces_le hsize (audioSpan file)
      have hspan := length_audioSpan_le file
      simp only [List.flatMap_cons, List.length_append] at hmore ⊢
      omega

theorem length_remaining_le_bound (tree : FileTree) (hsize : 0 < size) (body : Body) :
    (body.remaining tree size).1.length ≤ body.bound tree := by
  cases body with
  | files current queue =>
    refine Nat.le_trans ?_ (le_foldl_bound tree hsize queue current.length)
    rw [remaining, List.length_append]
    exact Nat.add_le_add_right (length_pieces_le hsize current) _
  | tool pipe =>
    have houtput := length_pieces_le hsize pipe.output
    simp only [remaining, bound]
    split
    · exact Nat.zero_le _
    · dsimp only
      omega

end Body

namespace Splice

variable {tree : FileTree} {size : Nat}

/-! ## The pieces that are still to come -/

/-- The pieces of a body with its tail: chunks, then the error if there is one, else the tail in
one piece if it is not empty. -/
def framed (tail : Bytes) : List Bytes × Option Error → List Item
  | (chunks, some e) => chunks.map .ok ++ [.error e]
  | (chunks, none) => chunks.map .ok ++ if tail.isEmpty then [] else [.ok tail]

@[simp] theorem framed_cons (tail chunk : Bytes) (chunks : List Bytes) (e : Option Error) :
    framed tail (chunk :: chunks, e) = .ok chunk :: framed tail (chunks, e) := by
  cases e <;> rfl

/-- The pieces that are still to come from a splice. -/
def pending (tree : FileTree) (s : Splice) : List Item :=
  match s.phase with
  | .head => (pieces s.chunkSize (s.head.drop s.offset)).map .ok ++
      framed s.tail (s.body.remaining tree s.chunkSize)
  | .body => framed s.tail (s.body.remaining tree s.chunkSize)
  | .tail => framed s.tail ([], none)
  | .done => []

/-! ## One step -/

/-- What it is to answer the first of some pieces and to leave the others. -/
def Answers (tree : FileTree) (size : Nat) (items : List Item) (reply : Option Item × Splice) :
    Prop :=
  reply.1 = items.head? ∧ reply.2.pending tree = items.tail ∧ reply.2.chunkSize = size

theorem answers_nextOfTail (s : Splice) :
    Answers tree s.chunkSize (framed s.tail ([], none)) s.nextOfTail := by
  unfold nextOfTail framed
  by_cases hempty : s.tail.isEmpty
  · rw [if_pos hempty, if_pos hempty]
    exact ⟨rfl, rfl, rfl⟩
  · rw [if_neg hempty, if_neg hempty]
    exact ⟨rfl, rfl, rfl⟩

theorem answers_nextOfBody {s : Splice} (hsize : 0 < s.chunkSize) (hphase : s.phase = .body) :
    Answers tree s.chunkSize (framed s.tail (s.body.remaining tree s.chunkSize))
      (s.nextOfBody tree) := by
  rcases hrem : s.body.remaining tree s.chunkSize with ⟨chunks, e⟩
  cases chunks with
  | cons chunk chunks =>
    obtain ⟨body, hnext, hbody⟩ := Body.next_of_remaining_cons hsize hrem
    rw [nextOfBody, hnext, framed_cons]
    refine ⟨rfl, ?_, rfl⟩
    simp only [pending, hphase, hbody, List.tail_cons]
  | nil =>
    obtain ⟨body, hnext⟩ := Body.next_of_remaining_nil hsize hrem
    cases e with
    | some e =>
      rw [nextOfBody, hnext]
      exact ⟨rfl, rfl, rfl⟩
    | none =>
      -- an exhausted body is no answer: the same call goes on to the tail
      rw [nextOfBody, hnext]
      exact answers_nextOfTail { s with body, phase := .tail }

theorem answers_nextOfHead {s : Splice} (hsize : 0 < s.chunkSize) (hphase : s.phase = .head) :
    Answers tree s.chunkSize
      ((pieces s.chunkSize (s.head.drop s.offset)).map .ok ++
        framed s.tail (s.body.remaining tree s.chunkSize))
      (s.nextOfHead tree) := by
  unfold nextOfHead
  by_cases hleft : s.offset < s.head.length
  · have hne : s.head.drop s.offset ≠ [] := fun hnil => by
      have := List.drop_eq_nil_iff.1 hnil
      omega
    rw [if_pos hleft, pieces_of_ne_nil hsize hne, List.map_cons, List.cons_append]
    refine ⟨?_, ?_, rfl⟩
    · -- the chunk ends at the end of the head or after `chunkSize` bytes, whichever comes first
      simp only [List.head?_cons, Option.some.injEq, Except.ok.injEq]
      rw [List.take_eq_take_iff, List.length_drop]
      omega
    · have hrest : s.head.drop (min s.head.length (s.offset + s.chunkSize)) =
          (s.head.drop s.offset).drop s.chunkSize := by
        rw [List.drop_drop]
        by_cases hfits : s.offset + s.chunkSize ≤ s.head.length
        · rw [Nat.min_eq_right hfits]
        · rw [Nat.min_eq_left (by omega), List.drop_length, List.drop_eq_nil_of_le (by omega)]
      simp only [pending, hphase, List.tail_cons, hrest]
  · have hnil : s.head.drop s.offset = [] := List.drop_eq_nil_of_le (by omega)
    -- nothing is left of the head, and the same call goes on to the body
    rw [if_neg hleft, hnil, pieces_nil hsize, List.map_nil, List.nil_append]
    exact answers_nextOfBody (s := { s with phase := .body }) hsize rfl

/-- One step answers the first of the pending pieces and leaves the others. -/
theorem answers_next (tree : FileTree) {s : Splice} (hsize : 0 < s.chunkSize) :
    Answers tree s.chunkSize (s.pending tree) (s.next tree) := by
  unfold next pending
  cases hphase : s.phase with
  | head => exact answers_nextOfHead hsize hphase
  | body => exact answers_nextOfBody hsize hphase
  | tail => exact answers_nextOfTail s
  | done => exact ⟨rfl, by simp only [pending, hphase, List.tail_nil], rfl⟩

/-! ## Whole runs -/

/-- A splice after some calls of `next`, whatever they answered. -/
def afterCalls (tree : FileTree) : Nat → Splice → Splice
  | 0, s => s
  | n + 1, s => afterCalls tree n (s.next tree).2

/-- The call of `next` with number `n`, counted from 0, answers the pending piece with that number,
and nothing once they are used up. -/
theorem next_afterCalls {s : Splice} (hsize : 0 < s.chunkSize) (n : Nat) :
    ((s.afterCalls tree n).next tree).1 = (s.pending tree)[n]? := by
  induction n generalizing s with
  | zero => rw [afterCalls, (answers_next tree hsize).1, List.head?_eq_getElem?]
  | succ n ih =>
    obtain ⟨-, hrest, hkeep⟩ := answers_next tree hsize
    rw [afterCalls, ih (hkeep.symm ▸ hsize), hrest, List.getElem?_tail]

/-- Some steps at once give as many of the pending pieces. -/
theorem takeItems_fst {s : Splice} (hsize : 0 < s.chunkSize) (n : Nat) :
    (s.takeItems tree n).1 = (s.pending tree).take n := by
  induction n generalizing s with
  | zero => rfl
  | succ n ih =>
    obtain ⟨hanswer, hrest, hkeep⟩ := answers_next tree hsize
    unfold takeItems
    rcases hnext : s.next tree with ⟨reply, s'⟩
    rw [hnext] at hanswer hrest hkeep
    cases hpending : s.pending tree with
    | nil =>
      rw [hpending] at hanswer
      obtain rfl : reply = none := hanswer
      rfl
    | cons item items =>
      rw [hpending] at hanswer hrest
      obtain rfl : reply = some item := hanswer
      rw [List.tail_cons] at hrest
      rw [List.take_succ_cons, ← hrest]
      exact congrArg (item :: ·) (ih (hkeep.symm ▸ hsize))

theorem length_framed_le (tail : Bytes) (rest : List Bytes × Option Error) :
    (framed tail rest).length ≤ rest.1.length + 1 := by
  obtain ⟨chunks, e⟩ := rest
  cases e with
  | some e => simp [framed]
  | none => by_cases hempty : tail.isEmpty <;> simp [framed, hempty]

/-- The pieces that are still to come fit into the bound. -/
theorem length_pending_le_bound {s : Splice} (hsize : 0 < s.chunkSize) :
    (s.pending tree).length ≤ s.bound tree := by
  have hbody := Body.length_remaining_le_bound tree hsize s.body
  have hframed := length_framed_le s.tail (s.body.remaining tree s.chunkSize)
  have hhead := length_pieces_le hsize (s.head.drop s.offset)
  rw [List.length_drop] at hhead
  have htail : (framed s.tail ([], none)).length ≤ 1 := length_framed_le s.tail ([], none)
  unfold pending bound
  cases s.phase with
  | head =>
    rw [List.length_append, List.length_map]
    omega
  | body => exact Nat.le_trans hframed (by omega)
  | tail => exact Nat.le_trans htail (by omega)
  | done => exact Nat.zero_le _

/-- A drained splice has given every piece that was to come. -/
theorem drain_eq_pending {s : Splice} (hsize : 0 < s.chunkSize) :
    (s.drain tree).1 = s.pending tree := by
  rw [drain, takeItems_fst hsize, List.take_of_length_le (length_pending_le_bound hsize)]

/-! ## Splices of the default engine -/

/-- The tags that frame a splice: those of the tag source, if there is one. -/
def framingTags (tree : FileTree) : Option FilePath → Except IoFault (Bytes × Option Bytes)
  | none => .ok ([], none)
  | some source =>
    match tree.read source with
    | .error fault => .error fault
    | .ok file => .ok (Id3v2.read file, Id3v1.ofFile? file)

/-- What a splice of some files has to produce: the pieces of the head, the pieces of the audio of
each file, and the tail as one piece; a file that cannot be read ends it with an error. -/
def splicedItems (tree : FileTree) (size : Nat) (head : Bytes) (tail : Option Bytes)
    (files : List FilePath) : List Item :=
  (pieces size head).map .ok ++
    ((tree.readAll files).1.flatMap fun file => (pieces size (audioSpan file)).map .ok) ++
    match (tree.readAll files).2 with
    | some fault => [.error (.io fault)]
    | none => (tail.map .ok).toList

/-- The bytes of all chunks among some pieces. -/
def chunkBytes (items : List Item) : Bytes :=
  items.flatMap fun
    | .ok chunk => chunk
    | .error _ => []

theorem chunkBytes_append (front back : List Item) :
    chunkBytes (front ++ back) = chunkBytes front ++ chunkBytes back :=
  List.flatMap_append

theorem chunkBytes_map_ok (chunks : List Bytes) :
    chunkBytes (chunks.map .ok) = chunks.flatten := by
  rw [chunkBytes, List.flatMap_map, List.flatMap_id']

/-- Pieces without an error among them are no more than their bytes. -/
theorem bytesOf_eq_chunkBytes {items : List Item} (hok : ∀ e, .error e ∉ items) :
    bytesOf items = .ok (chunkBytes items) := by
  induction items with
  | nil => rfl
  | cons item items ih =>
    have hrest := ih fun e he => hok e (List.mem_cons_of_mem _ he)
    cases item with
    | error e => exact absurd List.mem_cons_self (hok e)
    | ok chunk =>
      rw [bytesOf, hrest]
      rfl

theorem bytesOf_map_ok_error (chunks : List Bytes) (e : Error) :
    bytesOf (chunks.map .ok ++ [.error e]) = .error e := by
  induction chunks with
  | nil => rfl
  | cons chunk rest ih =>
    rw [List.map_cons, List.cons_append, bytesOf, ih]
    rfl

/-- There is at most one error among the pieces that are still to come, and nothing behind it. -/
theorem exists_chunks_of_pending (tree : FileTree) (s : Splice) :
    ∃ chunks : List Bytes, s.pending tree = chunks.map .ok ∨
      ∃ e, s.pending tree = chunks.map .ok ++ [.error e] := by
  have hframed : ∀ (front : List Bytes) (tail : Bytes) (rest : List Bytes × Option Error),
      ∃ chunks : List Bytes, front.map .ok ++ framed tail rest = chunks.map .ok ∨
        ∃ e, front.map .ok ++ framed tail rest = chunks.map .ok ++ [.error e] := by
    rintro front tail ⟨chunks, _ | e⟩
    · by_cases hempty : tail.isEmpty
      · exact ⟨front ++ chunks, .inl (by simp [framed, hempty])⟩
      · exact ⟨front ++ chunks ++ [tail], .inl (by simp [framed, hempty])⟩
    · exact ⟨front ++ chunks, .inr ⟨e, by simp [framed]⟩⟩
  unfold pending
  cases s.phase with
  | head => exact hframed _ _ _
  | body => exact hframed [] s.tail (s.body.remaining tree s.chunkSize)
  | tail => exact hframed [] s.tail ([], none)
  | done => exact ⟨[], .inl rfl⟩

/-- The error among the pieces that are still to come is what comes of them. -/
theorem bytesOf_pending_of_error {s : Splice} {e : Error} (he : .error e ∈ s.pending tree) :
    bytesOf (s.pending tree) = .error e := by
  obtain ⟨chunks, hpending | ⟨e', hpending⟩⟩ := exists_chunks_of_pending tree s
  · rw [hpending] at he
    obtain ⟨chunk, -, hchunk⟩ := List.mem_map.1 he
    cases hchunk
  · rw [hpending, List.mem_append, List.mem_singleton] at he
    rw [hpending, bytesOf_map_ok_error]
    rcases he with hmem | heq
    · obtain ⟨chunk, -, hchunk⟩ := List.mem_map.1 hmem
      cases hchunk
    · exact heq.symm

theorem tagsOf_eq (file : Bytes) :
    tagsOf file = (Id3v2.read file, (Id3v1.ofFile? file).getD []) := by
  simp only [tagsOf, Cursor.takeId3v2_eq, Cursor.findId3v1_eq, Cursor.take, Cursor.rest,
    List.drop_zero, Id3v1.read]
  rw [Id3v2.take_length_read]

/-- A splice whose engine can be started begins in its head, with the whole body before it. -/
theorem start_of_engine {programs : Programs} {files : List FilePath} {options : SpliceOptions}
    {body : Body} (hbody : options.engine.start tree programs files = .ok body) :
    start tree programs files options =
      match framingTags tree options.tagSource with
      | .error fault => .error (.io fault)
      | .ok (head, tail) => .ok ⟨options.chunkSize, .head, head, 0, body, tail.getD []⟩ := by
  unfold start framingTags
  rw [hbody]
  cases options.tagSource with
  | none => rfl
  | some source =>
    cases hread : tree.read source with
    | error fault => simp only [hread]; rfl
    | ok file => simp only [hread, tagsOf_eq]; rfl

theorem start_default {programs : Programs} {files : List FilePath} {options : SpliceOptions}
    (hengine : options.engine = .default) :
    start tree programs files options =
      match framingTags tree options.tagSource with
      | .error fault => .error (.io fault)
      | .ok (head, tail) =>
        .ok ⟨options.chunkSize, .head, head, 0, .files [] files, tail.getD []⟩ :=
  start_of_engine (by rw [hengine]; rfl)

/-- A tail follows the chunks if there is one. An empty tail could not be told from a missing one. -/
theorem framed_none {tail : Option Bytes} (htail : tail ≠ some []) (chunks : List Bytes) :
    framed (tail.getD []) (chunks, none) = chunks.map .ok ++ (tail.map .ok).toList := by
  unfold framed
  rcases tail with _ | _ | ⟨b, rest⟩
  · rfl
  · exact absurd rfl htail
  · rfl

theorem framed_files (hsize : 0 < size) (tail : Option Bytes) (htail : tail ≠ some [])
    (files : List FilePath) :
    framed (tail.getD []) (Body.remaining tree size (.files [] files)) =
      ((tree.readAll files).1.flatMap fun file => (pieces size (audioSpan file)).map .ok) ++
        match (tree.readAll files).2 with
        | some fault => [.error (.io fault)]
        | none => (tail.map .ok).toList := by
  rw [Body.remaining, pieces_nil hsize, List.nil_append]
  cases (tree.readAll files).2 with
  | some fault => rw [Option.map_some, framed, List.map_flatMap]
  | none => rw [Option.map_none, framed_none htail, List.map_flatMap]

/-- Everything is still to come from a splice that has not begun. -/
theorem pending_begin (tree : FileTree) (size : Nat) (head : Bytes) (body : Body) (tail : Bytes) :
    pending tree ⟨size, .head, head, 0, body, tail⟩ =
      (pieces size head).map .ok ++ framed tail (body.remaining tree size) :=
  rfl

theorem pending_of_start (tree : FileTree) (hsize : 0 < size) (head : Bytes) (tail : Option Bytes)
    (htail : tail ≠ some []) (files : List FilePath) :
    pending tree ⟨size, .head, head, 0, .files [] files, tail.getD []⟩ =
      splicedItems tree size head tail files := by
  rw [pending_begin, framed_files hsize tail htail, splicedItems, List.append_assoc]

theorem framingTags_tail_ne {source : Option FilePath} {head : Bytes} {tail : Option Bytes}
    (htags : framingTags tree source = .ok (head, tail)) : tail ≠ some [] := by
  cases source with
  | none => cases htags; exact Option.some_ne_none [] ∘ Eq.symm
  | some source =>
    cases hread : tree.read source with
    | error fault => simp only [framingTags, hread, reduceCtorEq] at htags
    | ok file =>
      simp only [framingTags, hread] at htags
      cases htags
      -- a tag that was found is 128 bytes long
      intro hempty
      have hlength := Id3v1.length_of_ofFile? hempty
      exact absurd hlength (by decide)

theorem chunkBytes_splicedItems (hsize : 0 < size) (head : Bytes) (tail : Option Bytes)
    (files : List FilePath) :
    chunkBytes (splicedItems tree size head tail files) =
      head ++ (tree.readAll files).1.flatMap audioSpan ++
        if (tree.readAll files).2.isNone then tail.getD [] else [] := by
  have haudio : ∀ contents : List Bytes,
      chunkBytes (contents.flatMap fun file => (pieces size (audioSpan file)).map .ok) =
        contents.flatMap audioSpan := by
    intro contents
    induction contents with
    | nil => rfl
    | cons file contents ih =>
      rw [List.flatMap_cons, chunkBytes_append, ih, chunkBytes_map_ok, flatten_pieces hsize,
        List.flatMap_cons]
  rw [splicedItems, chunkBytes_append, chunkBytes_append, chunkBytes_map_ok,
    flatten_pieces hsize, haudio]
  congr 1
  cases (tree.readAll files).2 with
  | some fault => rfl
  | none => cases tail <;> simp [chunkBytes]

/-- No chunk is empty. -/
theorem ok_nil_notMem_splicedItems (hsize : 0 < size) {head : Bytes} {tail : Option Bytes}
    (htail : tail ≠ some []) (files : List FilePath) :
    .ok [] ∉ splicedItems tree size head tail files := by
  have hpieces : ∀ bytes : Bytes, (.ok [] : Item) ∉ (pieces size bytes).map .ok := by
    intro bytes hmem
    obtain ⟨piece, hpiece, hnil⟩ := List.mem_map.1 hmem
    cases hnil
    exact ne_nil_of_mem_pieces hsize hpiece rfl
  intro hmem
  rw [splicedItems, List.mem_append, List.mem_append] at hmem
  rcases hmem with (hmem | hmem) | hmem
  · exact hpieces head hmem
  · obtain ⟨file, -, hmem⟩ := List.mem_flatMap.1 hmem
    exact hpieces (audioSpan file) hmem
  · split at hmem
    · simp at hmem
    · cases tail with
      | none => simp at hmem
      | some tail =>
        simp only [Option.map_some, Option.toList_some, List.mem_singleton] at hmem
        cases hmem
        exact htail rfl

theorem error_notMem_splicedItems {size : Nat} {head : Bytes} {tail : Option Bytes}
    {files : List FilePath} (hread : (tree.readAll files).2 = none) (e : Error) :
    .error e ∉ splicedItems tree size head tail files := by
  intro hmem
  simp only [splicedItems, hread, List.mem_append, List.mem_map, List.mem_flatMap,
    Option.mem_toList, Option.map_eq_some_iff, reduceCtorEq, and_false,
    exists_false, or_false] at hmem

/-- The bytes of a splice of the default engine whose files can all be read. -/
theorem bytesOf_drain_default {options : SpliceOptions} (programs : Programs)
    {files : List FilePath} {contents : List Bytes} {head : Bytes} {tail : Option Bytes}
    (hengine : options.engine = .default) (hsize : 0 < options.chunkSize)
    (hframing : framingTags tree options.tagSource = .ok (head, tail))
    (hfiles : tree.readAll files = (contents, none)) :
    ∃ s, start tree programs files options = .ok s ∧
      bytesOf (s.drain tree).1 = .ok (head ++ contents.flatMap audioSpan ++ tail.getD []) := by
  refine ⟨_, by rw [start_default hengine, hframing], ?_⟩
  rw [drain_eq_pending hsize,
    pending_of_start tree hsize head tail (framingTags_tail_ne hframing),
    bytesOf_eq_chunkBytes (error_notMem_splicedItems (by rw [hfiles])),
    chunkBytes_splicedItems hsize, hfiles]
  rfl

/-- A splice by the default engine cannot be started when its tag source cannot be read. Otherwise
its calls of `next` answer the pieces of the head, of the audio of each file and the tail one after
the other, up to an error where a file cannot be read, and nothing from then on; draining gives
just these pieces. None of them is empty, and their bytes do not depend on the chunk size. -/
theorem next_afterCalls_start_default (tree : FileTree) (programs : Programs)
    (files : List FilePath) (options : SpliceOptions) (hengine : options.engine = .default)
    (hsize : 0 < options.chunkSize) :
    match framingTags tree options.tagSource with
    | .error fault => start tree programs files options = .error (.io fault)
    | .ok (head, tail) =>
      let items := splicedItems tree options.chunkSize head tail files
      ∃ s, start tree programs files options = .ok s ∧
        (∀ n, ((s.afterCalls tree n).next tree).1 = items[n]?) ∧
        (s.drain tree).1 = items ∧ .ok [] ∉ items ∧
        chunkBytes items = head ++ (tree.readAll files).1.flatMap audioSpan ++
          if (tree.readAll files).2.isNone then tail.getD [] else [] := by
  rw [start_default hengine]
  cases htags : framingTags tree options.tagSource with
  | error fault => rfl
  | ok tags =>
    obtain ⟨head, tail⟩ := tags
    have htail := framingTags_tail_ne htags
    have hpending := pending_of_start tree hsize head tail htail files
    refine ⟨_, rfl, fun n => ?_, ?_, ok_nil_notMem_splicedItems hsize htail files,
      chunkBytes_splicedItems hsize head tail files⟩
    · rw [next_afterCalls hsize, hpending]
    · rw [drain_eq_pending hsize, hpending]

/-- Two files of which the second is missing, with a chunk size of two: the audio of the first file
in two pieces, then the error and nothing more. -/
theorem next_afterCalls_start_default_missing_file :
    ∃ s, start ⟨[(["a"], .file [7, 8, 9] 0)]⟩ Programs.plain ["a", "b"] ⟨2, none, .default⟩ =
        .ok s ∧
      (∀ n, ((s.afterCalls ⟨[(["a"], .file [7, 8, 9] 0)]⟩ n).next
          ⟨[(["a"], .file [7, 8, 9] 0)]⟩).1 =
        [.ok [7, 8], .ok [9], .error (.io .notFound)][n]?) := by
  have hrun := next_afterCalls_start_default ⟨[(["a"], .file [7, 8, 9] 0)]⟩ Programs.plain
    ["a", "b"] ⟨2, none, .default⟩ rfl (by decide)
  obtain ⟨s, hstart, hnext, -⟩ := hrun
  exact ⟨s, hstart, hnext⟩

end Splice

end ClipSplice

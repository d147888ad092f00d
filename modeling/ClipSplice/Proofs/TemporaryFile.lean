import ClipSplice.Splice.Stream
import Mathlib.Tactic.SplitIfs

/-!
# Temporary files

While a splice is written, a temporary file stands in the tree from which the splice is read. A path
without the name of that file leads to the same place with it as without it
(`FileTree.read_put_of_notMem`), so the same pieces are made as from the tree before
(`Splice.writeItems_put`). What comes of it is either that tree or the tree with the whole splice
under the path, whatever the name of the temporary file was (`Splice.writeBeside_eq`).
-/

namespace ClipSplice

namespace FileTree

variable {tree : FileTree} {target : Location} {entry : FileEntry} {name : String}

/-! ## A tree with one file more -/

/-- Of two entries at a location the second one stands. -/
theorem put_put (tree : FileTree) (location : Location) (first second : FileEntry) :
    (tree.put location first).put location second = tree.put location second := by
  simp [put]

/-- Only directories stand at the root. -/
theorem ne_nil_of_get?_ne (h : tree.get? target ≠ some .directory) : target ≠ [] := by
  rintro rfl
  exact h rfl

theorem ne_nil_of_get?_eq_none (hnone : tree.get? target = none) : target ≠ [] := by
  have hother : tree.get? target ≠ some .directory := by
    rw [hnone]
    exact (Option.some_ne_none _).symm
  exact ne_nil_of_get?_ne hother

/-- What was put where nothing stood can be taken away again. -/
theorem erase_put (hnone : tree.get? target = none) (entry : FileEntry) :
    (tree.put target entry).erase target = tree := by
  have hne : target ≠ [] := ne_nil_of_get?_eq_none hnone
  have hlookup : tree.entries.lookup target = none := by
    rwa [get?, if_neg hne] at hnone
  have hother : ∀ e ∈ tree.entries, e.1 ≠ target := by
    intro e hmem
    have hdiffers := List.lookup_eq_none_iff.1 hlookup e hmem
    rw [bne_iff_ne] at hdiffers
    exact hdiffers.symm
  have hkeep : tree.entries.filter (fun e => e.1 ≠ target) = tree.entries :=
    List.filter_eq_self.2 fun e hmem => decide_eq_true (hother e hmem)
  have htwice : ((tree.put target entry).erase target).entries =
      (tree.entries.filter fun e => e.1 ≠ target).filter fun e => e.1 ≠ target := by
    rw [erase, put, List.filter_cons_of_neg (by simp)]
  rw [hkeep, hkeep] at htwice
  exact congrArg FileTree.mk htwice

/-- Nothing stands at a location with a name that is nowhere in the tree. -/
theorem get?_eq_none_of_notMem (hname : name ∈ target)
    (hfree : name ∉ tree.entries.flatMap Prod.fst) : tree.get? target = none := by
  rw [get?, if_neg (List.ne_nil_of_mem hname), List.lookup_eq_none_iff]
  rintro ⟨other, what⟩ hmem
  rw [bne_iff_ne]
  rintro rfl
  exact hfree (List.mem_flatMap.2 ⟨_, hmem, hname⟩)

/-- A path keeps to the names that it is made of. -/
theorem notMem_of_follow {start found : Location} {names : List String} (hstart : name ∉ start)
    (hnames : name ∉ names) (h : tree.follow start names = .ok found) : name ∉ found := by
  induction names generalizing start with
  | nil =>
    cases h
    exact hstart
  | cons step names ih =>
    rw [List.mem_cons, not_or] at hnames
    rw [follow] at h
    split at h
    · cases h
    · cases h
    · split_ifs at h
      · exact ih hstart hnames.2 h
      · exact ih (fun hmem => hstart (List.dropLast_subset start hmem)) hnames.2 h
      · refine ih ?_ hnames.2 h
        rw [List.mem_append, List.mem_singleton, not_or]
        exact ⟨hstart, hnames.1⟩

/-- A path does not meet an entry whose location has a name that is not on the way. -/
theorem follow_put_of_notMem (hname : name ∈ target) {start : Location} {names : List String}
    (hstart : name ∉ start) (hnames : name ∉ names) :
    (tree.put target entry).follow start names = tree.follow start names := by
  induction names generalizing start with
  | nil => rfl
  | cons step names ih =>
    have hother : start ≠ target := fun heq => hstart (heq ▸ hname)
    rw [List.mem_cons, not_or] at hnames
    have hstay := ih hstart hnames.2
    have hup := ih (fun hmem => hstart (List.dropLast_subset start hmem)) hnames.2
    have hdown : (tree.put target entry).follow (start ++ [step]) names =
        tree.follow (start ++ [step]) names := by
      refine ih ?_ hnames.2
      rw [List.mem_append, List.mem_singleton, not_or]
      exact ⟨hstart, hnames.1⟩
    rw [follow, follow, get?_put tree (List.ne_nil_of_mem hname), if_neg hother, hstay, hup, hdown]

theorem find_put_of_notMem {path : FilePath} (hname : name ∈ target) (hpath : name ∉ path.steps) :
    (tree.put target entry).find path = tree.find path := by
  have hlocate : (tree.put target entry).locate path = tree.locate path := by
    rw [locate, locate, follow_put_of_notMem hname List.not_mem_nil hpath]
  rw [find, find, hlocate]
  cases hfound : tree.locate path with
  | error fault => rfl
  | ok location =>
    have hother : location ≠ target := by
      rintro rfl
      unfold locate at hfound
      split_ifs at hfound
      exact notMem_of_follow List.not_mem_nil hpath hfound hname
    simp only [bind, Except.bind, get?_put tree (List.ne_nil_of_mem hname), if_neg hother]

theorem exists_locate_of_find {path : FilePath} {what : FileEntry}
    (h : tree.find path = .ok what) : ∃ location, tree.locate path = .ok location := by
  unfold find at h
  cases hlocate : tree.locate path with
  | error fault =>
    rw [hlocate] at h
    cases h
  | ok location => exact ⟨location, rfl⟩

theorem read_put_of_notMem {path : FilePath} (hname : name ∈ target) (hpath : name ∉ path.steps) :
    (tree.put target entry).read path = tree.read path := by
  rw [read, read, find_put_of_notMem hname hpath]

/-! ## Writing into the file -/

theorem append_put (hne : target ≠ []) (content bytes : Bytes) (time : Nat) :
    (tree.put target (.file content time)).append target bytes time =
      tree.put target (.file (content ++ bytes) time) := by
  rw [append, get?_put tree hne, if_pos rfl]
  exact put_put tree target _ _

/-- A file that is moved from a place where nothing stood before takes the place of another. -/
theorem rename_put (hnone : tree.get? target = none) (content : Bytes) (time : Nat)
    (path : FilePath) :
    (tree.put target (.file content time)).rename target path = tree.replace path content time := by
  rw [rename, get?_put tree (ne_nil_of_get?_eq_none hnone), if_pos rfl]
  simp only [erase_put hnone]

end FileTree

/-! ## Reading from another tree -/

namespace Body

variable {tree tree' : FileTree} {size : Nat}

/-- The next chunk depends on the tree through the files that are still to be opened. -/
theorem next_congr {body : Body} (h : ∀ path ∈ body.queue, tree'.read path = tree.read path) :
    body.next tree' size = body.next tree size := by
  cases body with
  | tool pipe => rfl
  | files current queue =>
    have hqueue : nextFrom tree' size queue = nextFrom tree size queue := by
      replace h : ∀ path ∈ queue, tree'.read path = tree.read path := h
      induction queue with
      | nil => rfl
      | cons path queue ih =>
        obtain ⟨hpath, hrest⟩ := List.forall_mem_cons.1 h
        rw [nextFrom, nextFrom, hpath, ih hrest]
    rw [next, next, hqueue]

/-- No step adds a file that is to be opened. -/
theorem queue_next_subset (tree : FileTree) (size : Nat) (body : Body) :
    (body.next tree size).2.queue ⊆ body.queue := by
  have hqueue : ∀ queue, (nextFrom tree size queue).2.queue ⊆ queue := by
    intro queue
    induction queue with
    | nil => exact List.Subset.refl _
    | cons path queue ih =>
      have hrest := List.subset_cons_self path queue
      rw [nextFrom]
      split
      · exact hrest
      · dsimp only
        split
        · exact List.Subset.trans ih hrest
        · exact hrest
  cases body with
  | tool pipe => exact List.Subset.refl _
  | files current queue =>
    rw [next]
    split
    · exact hqueue queue
    · exact List.Subset.refl _

end Body

namespace Splice

variable {tree tree' : FileTree} {s : Splice}

theorem next_congr (h : ∀ path ∈ s.body.queue, tree'.read path = tree.read path) :
    s.next tree' = s.next tree := by
  have hbody : ∀ phase, nextOfBody tree' { s with phase } = nextOfBody tree { s with phase } :=
    fun phase => by simp only [nextOfBody, Body.next_congr h]
  unfold next nextOfHead
  split
  · rw [hbody]
  · exact hbody s.phase
  · rfl
  · rfl

theorem queue_next_subset (tree : FileTree) (s : Splice) :
    (s.next tree).2.body.queue ⊆ s.body.queue := by
  have htail : ∀ s : Splice, s.nextOfTail.2.body = s.body := by
    intro s
    unfold nextOfTail
    split <;> rfl
  have hbody : ∀ s : Splice, (s.nextOfBody tree).2.body.queue ⊆ s.body.queue := by
    intro s
    have hsubset := Body.queue_next_subset tree s.chunkSize s.body
    unfold nextOfBody
    rcases hnext : s.body.next tree s.chunkSize with ⟨_ | _ | chunk, body⟩ <;>
      rw [hnext] at hsubset
    · rw [htail]
      exact hsubset
    · exact hsubset
    · exact hsubset
  unfold next nextOfHead
  split
  · split
    · exact List.Subset.refl _
    · exact hbody _
  · exact hbody s
  · rw [htail]
    exact List.Subset.refl _
  · exact List.Subset.refl _

/-! ## Writing beside the target -/

/-- What is written into a file that the splice does not read: all pieces, or those in front of an
error. -/
theorem writeItems_put {file : Location} {time : Nat} (hne : file ≠ []) (n written : Nat)
    (content : Bytes) (hsame : ∀ content, ∀ path ∈ s.body.queue,
      (tree.put file (.file content time)).read path = tree.read path) :
    ∃ filled, s.writeItems file time n written (tree.put file (.file content time)) =
        ((bytesOf (s.takeItems tree n).1).map (written + ·.length),
          tree.put file (.file filled time)) ∧
      ∀ bytes, bytesOf (s.takeItems tree n).1 = .ok bytes → filled = content ++ bytes := by
  induction n generalizing written content s with
  | zero =>
    refine ⟨content, rfl, fun bytes hbytes => ?_⟩
    cases hbytes
    rw [List.append_nil]
  | succ n ih =>
    have hnext := next_congr (hsame content)
    have hqueue := queue_next_subset tree s
    rw [writeItems, takeItems, hnext]
    rcases hstep : s.next tree with ⟨_ | _ | chunk, s'⟩ <;> rw [hstep] at hqueue
    · refine ⟨content, rfl, fun bytes hbytes => ?_⟩
      cases hbytes
      rw [List.append_nil]
    · exact ⟨content, rfl, nofun⟩
    · obtain ⟨filled, hfilled, hall⟩ := ih (written + chunk.length) (content ++ chunk)
        fun content path hpath => hsame content path (hqueue hpath)
      refine ⟨filled, ?_, fun bytes hbytes => ?_⟩
      · simp only [FileTree.append_put hne, hfilled, bytesOf]
        cases bytesOf (s'.takeItems tree n).1 with
        | error e => rfl
        | ok bytes =>
          simp only [Except.map, List.length_append, Nat.add_assoc]
      · rw [bytesOf] at hbytes
        cases hrest : bytesOf (s'.takeItems tree n).1 with
        | error e =>
          rw [hrest] at hbytes
          cases hbytes
        | ok rest =>
          rw [hrest] at hbytes
          cases hbytes
          rw [hall rest hrest, List.append_assoc]

/-- What comes of writing a splice, whichever free name the temporary file has: the pieces are those
that the splice makes from the tree before, and the file is replaced or nothing is changed. -/
theorem writeBeside_eq {name : String} (hfree : name ∉ s.usedNames tree) (path : FilePath)
    (time : Nat) :
    s.writeBeside tree name path time =
      match tree.find path.directory with
      | .error fault => (.error (.io fault), tree)
      | .ok (.file ..) => (.error (.io .notADirectory), tree)
      | .ok .directory =>
        match bytesOf (s.drain tree).1 with
        | .error e => (.error e, tree)
        | .ok content =>
          match tree.replace path content time with
          | .error fault => (.error (.io fault), tree)
          | .ok replaced => (.ok content.length, replaced) := by
  rw [usedNames, List.mem_append, not_or] at hfree
  obtain ⟨hentries, hqueue⟩ := hfree
  cases hfind : tree.find path.directory with
  | error fault =>
    simp only [writeBeside, FileTree.create, hfind, bind, Except.bind]
  | ok what =>
    cases what with
    | file content modified =>
      simp only [writeBeside, FileTree.create, hfind, bind, Except.bind]
    | directory =>
      obtain ⟨directory, hdirectory⟩ := FileTree.exists_locate_of_find hfind
      have hname : name ∈ directory ++ [name] := List.mem_append_right _ List.mem_cons_self
      have hne : directory ++ [name] ≠ [] := List.ne_nil_of_mem hname
      have hnone := FileTree.get?_eq_none_of_notMem hname hentries
      have hcreate : tree.create path.directory name time = .ok (directory ++ [name],
          tree.put (directory ++ [name]) (.file [] time)) := by
        simp only [FileTree.create, hfind, hdirectory, bind, Except.bind]
      obtain ⟨filled, hwritten, hall⟩ :
          ∃ filled, s.writeItems (directory ++ [name]) time (s.bound tree) 0
              (tree.put (directory ++ [name]) (.file [] time)) =
            ((bytesOf (s.drain tree).1).map (0 + ·.length),
              tree.put (directory ++ [name]) (.file filled time)) ∧
            ∀ bytes, bytesOf (s.drain tree).1 = .ok bytes → filled = [] ++ bytes :=
        writeItems_put hne (s.bound tree) 0 [] fun content path hpath =>
          FileTree.read_put_of_notMem hname fun hmem =>
            hqueue (List.mem_flatMap.2 ⟨path, hpath, hmem⟩)
      simp only [writeBeside, hcreate]
      rw [hwritten]
      cases hbytes : bytesOf (s.drain tree).1 with
      | error e => simp only [Except.map, FileTree.erase_put hnone]
      | ok content =>
        rw [hbytes] at hall
        obtain rfl : filled = content := hall content rfl
        cases hreplace : tree.replace path filled time with
        | error fault =>
          simp only [Except.map, FileTree.rename_put hnone, FileTree.erase_put hnone, hreplace]
        | ok replaced =>
          simp only [Except.map, FileTree.rename_put hnone, hreplace, Nat.zero_add]

/-- The name of a temporary file is that of no other file. -/
theorem temporaryName_notMem (used : List String) : temporaryName used ∉ used := by
  intro hmem
  have hle : (temporaryName used).length ≤ (used.flatMap String.toList).length := by
    have hmap := List.mem_map_of_mem (f := String.toList) hmem
    have hsub := (List.sublist_flatten_of_mem hmap).length_le
    rwa [← List.flatMap_def, String.length_toList] at hsub
  have hfill : (String.ofList (List.replicate (used.flatMap String.toList).length '0')).length =
      (used.flatMap String.toList).length := by
    rw [String.length_ofList, List.length_replicate]
  have hfront : (".tmp" : String).length = 4 := rfl
  rw [temporaryName, String.length_append] at hle
  omega

theorem writeBeside_eq_writeTo {name : String} (hfree : name ∉ s.usedNames tree) (path : FilePath)
    (time : Nat) : s.writeBeside tree name path time = s.writeTo tree path time := by
  rw [writeTo, writeBeside_eq hfree, writeBeside_eq (temporaryName_notMem _)]

end Splice

end ClipSplice

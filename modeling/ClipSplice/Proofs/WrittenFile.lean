import ClipSplice.Proofs.SpliceRun
import ClipSplice.Proofs.TemporaryFile

/-!
# Files that were written

A file that took the place of another is read back with its new content
(`FileTree.read_replace`), and nothing else has changed. So a splice that was written into a file is
found there (`Splice.read_of_writeTo`), and it is written whenever its bytes can be produced and the
file can be replaced. Otherwise everything is as it was before (`Splice.writeTo_allOrNothing`).
-/

namespace ClipSplice

namespace FileTree

variable {tree : FileTree} {entry : FileEntry}

/-! ## Paths in a changed tree -/

/-- A path leads to the same location when something that is no directory was changed: all that it
passes through are directories. -/
theorem follow_put {target : Location} (hne : target ≠ [])
    (htarget : tree.get? target ≠ some .directory) {start : Location} {names : List String}
    {found : Location} (h : tree.follow start names = .ok found) :
    (tree.put target entry).follow start names = .ok found := by
  induction names generalizing start with
  | nil => exact h
  | cons name names ih =>
    rw [follow] at h ⊢
    cases hstart : tree.get? start with
    | none => simp [hstart] at h
    | some what =>
      cases what with
      | file content modified => simp [hstart] at h
      | directory =>
        have hother : start ≠ target := fun heq => htarget (heq ▸ hstart)
        rw [get?_put tree hne, if_neg hother, hstart]
        simp only [hstart] at h ⊢
        split_ifs at h ⊢
        all_goals exact ih h

theorem locate_put {path : FilePath} {target found : Location} (hne : target ≠ [])
    (htarget : tree.get? target ≠ some .directory) (h : tree.locate path = .ok found) :
    (tree.put target entry).locate path = .ok found := by
  unfold locate at h ⊢
  split_ifs at h ⊢
  exact follow_put hne htarget h

/-! ## Replacing -/

/-- What replacing a file does: it puts the content at a location that is no directory. -/
theorem eq_put_of_replace {path : FilePath} {content : Bytes} {time : Nat} {tree' : FileTree}
    (h : tree.replace path content time = .ok tree') :
    ∃ location, tree.locate path = .ok location ∧ path.endsInSlash = false ∧
      tree.get? location ≠ some .directory ∧ tree' = tree.put location (.file content time) := by
  unfold replace at h
  cases hlocate : tree.locate path with
  | error fault => simp [hlocate, bind, Except.bind] at h
  | ok location =>
    simp only [hlocate, bind, Except.bind] at h
    split at h
    · cases h
    · split at h
      · cases h
      · rename_i hslash
        split at h
        · cases h
        · rename_i hentry
          cases h
          exact ⟨location, rfl, by simpa using hslash, fun heq => hentry heq, rfl⟩

/-- A file that was replaced has its new content. -/
theorem read_replace {path : FilePath} {content : Bytes} {time : Nat} {tree' : FileTree}
    (h : tree.replace path content time = .ok tree') : tree'.read path = .ok content := by
  obtain ⟨location, hlocate, hslash, hentry, rfl⟩ := eq_put_of_replace h
  have hne : location ≠ [] := ne_nil_of_get?_ne hentry
  have hfind : (tree.put location (.file content time)).find path = .ok (.file content time) := by
    unfold find
    rw [locate_put hne hentry hlocate]
    simp only [bind, Except.bind, get?_put tree hne, if_true, hslash, Bool.false_eq_true, if_false]
  rw [read, hfind]
  rfl

/-- Replacing a file leaves everything at other locations. -/
theorem get?_replace_of_ne {path : FilePath} {content : Bytes} {time : Nat} {tree' : FileTree}
    (h : tree.replace path content time = .ok tree') {other : Location}
    (hother : tree.locate path ≠ .ok other) : tree'.get? other = tree.get? other := by
  obtain ⟨location, hlocate, -, hentry, rfl⟩ := eq_put_of_replace h
  have hne : location ≠ [] := ne_nil_of_get?_ne hentry
  rw [get?_put tree hne, if_neg]
  rintro rfl
  exact hother hlocate

end FileTree

/-! ## Writing a splice -/

/-- A file can be put under a path: its directory exists, and so does everything that it takes to
replace the file. -/
def FileTree.Writable (tree : FileTree) (path : FilePath) : Prop :=
  tree.find path.directory = .ok .directory ∧ ∃ tree', tree.replace path [] 0 = .ok tree'

/-- What stands in the way of a file does not depend on what is written into it. -/
theorem FileTree.exists_replace {tree : FileTree} {path : FilePath} {old : Bytes} {before : Nat}
    (h : ∃ tree', tree.replace path old before = .ok tree') (content : Bytes) (time : Nat) :
    ∃ tree', tree.replace path content time = .ok tree' := by
  obtain ⟨tree', h⟩ := h
  unfold replace at h ⊢
  cases hlocate : tree.locate path with
  | error fault => simp [hlocate, bind, Except.bind] at h
  | ok location =>
    simp only [hlocate, bind, Except.bind] at h ⊢
    split_ifs at h ⊢
    split at h
    · cases h
    · exact ⟨_, rfl⟩

namespace Splice

variable {tree : FileTree} {s : Splice} {path : FilePath} {time : Nat} {content : Bytes}

/-- A splice is written into a file that can be replaced. -/
theorem exists_writeTo (hcontent : bytesOf (s.drain tree).1 = .ok content)
    (hwritable : tree.Writable path) :
    ∃ count tree', s.writeTo tree path time = (.ok count, tree') := by
  obtain ⟨hdirectory, hreplace⟩ := hwritable
  obtain ⟨tree', hreplace⟩ := FileTree.exists_replace hreplace content time
  refine ⟨content.length, tree', ?_⟩
  simp only [writeTo, writeBeside_eq (temporaryName_notMem _), hdirectory, hcontent, hreplace]

/-- What was done when a splice could be written: all its bytes took the place of the file. -/
theorem replace_of_writeTo (hcontent : bytesOf (s.drain tree).1 = .ok content) {count : Nat}
    {tree' : FileTree} (h : s.writeTo tree path time = (.ok count, tree')) :
    count = content.length ∧ tree.replace path content time = .ok tree' := by
  rw [writeTo, writeBeside_eq (temporaryName_notMem _), hcontent] at h
  split at h
  · cases h
  · cases h
  · cases hreplace : tree.replace path content time with
    | error fault => simp [hreplace] at h
    | ok replaced =>
      simp only [hreplace, Prod.mk.injEq, Except.ok.injEq] at h
      exact ⟨h.1.symm, congrArg Except.ok h.2⟩

/-- The file that a splice was written into holds the bytes of the splice. -/
theorem read_of_writeTo (hcontent : bytesOf (s.drain tree).1 = .ok content) {count : Nat}
    {tree' : FileTree} (h : s.writeTo tree path time = (.ok count, tree')) :
    tree'.read path = .ok content :=
  FileTree.read_replace (replace_of_writeTo hcontent h).2

/-- Where no file can be put, nothing is changed. -/
theorem writeTo_of_not_writable (hwritable : ¬ tree.Writable path) :
    ∃ e, s.writeTo tree path time = (.error e, tree) := by
  rw [writeTo, writeBeside_eq (temporaryName_notMem _)]
  split
  · exact ⟨_, rfl⟩
  · exact ⟨_, rfl⟩
  · rename_i hdirectory
    split
    · exact ⟨_, rfl⟩
    · rename_i content _
      cases hreplace : tree.replace path content time with
      | error fault => exact ⟨_, rfl⟩
      | ok replaced =>
        have hempty := FileTree.exists_replace ⟨replaced, hreplace⟩ [] 0
        exact absurd ⟨hdirectory, hempty⟩ hwritable

/-- Where the pieces end in an error, nothing is changed. -/
theorem writeTo_of_error {e : Error} (herror : bytesOf (s.drain tree).1 = .error e) :
    ∃ e', s.writeTo tree path time = (.error e', tree) ∧ (tree.Writable path → e' = e) := by
  rw [writeTo, writeBeside_eq (temporaryName_notMem _), herror]
  cases hfind : tree.find path.directory with
  | error fault =>
    refine ⟨_, rfl, fun hwritable => ?_⟩
    cases hfind.symm.trans hwritable.1
  | ok what =>
    cases what with
    | file old modified =>
      refine ⟨_, rfl, fun hwritable => ?_⟩
      cases hfind.symm.trans hwritable.1
    | directory => exact ⟨e, rfl, fun _ => rfl⟩

/-! ## All or nothing -/

/-- Writing a splice, whatever has been read of it before, is all or nothing. When a file cannot be
put under the path, or the calls of `next` come to an error, there is an error and the tree is as it
was. Otherwise the bytes of all pieces, made from the tree as it was, stand under the path, their
number is returned, and everything at another location is as it was. The path may lead to a file
that is spliced. The name of the temporary file does not matter. -/
theorem writeTo_allOrNothing (tree : FileTree) (s : Splice) (hsize : 0 < s.chunkSize)
    (path : FilePath) (time : Nat) :
    ∃ items : List Item,
      (∀ n, ((s.afterCalls tree n).next tree).1 = items[n]?) ∧
      -- something is in the way
      (¬ tree.Writable path → ∃ e, s.writeTo tree path time = (.error e, tree)) ∧
      (∀ e, .error e ∈ items → ∃ e', s.writeTo tree path time = (.error e', tree) ∧
        (tree.Writable path → e' = e)) ∧
      -- everything is written
      (tree.Writable path → (∀ e, .error e ∉ items) →
        ∃ tree', s.writeTo tree path time = (.ok (chunkBytes items).length, tree') ∧
          tree'.read path = .ok (chunkBytes items) ∧
          ∀ location, tree.locate path ≠ .ok location →
            tree'.get? location = tree.get? location) ∧
      ∀ name ∉ s.usedNames tree,
        s.writeBeside tree name path time = s.writeTo tree path time := by
  have hdrain : (s.drain tree).1 = s.pending tree := drain_eq_pending hsize
  refine ⟨s.pending tree, next_afterCalls hsize, writeTo_of_not_writable, ?_, ?_, ?_⟩
  · intro e he
    exact writeTo_of_error (by rw [hdrain, bytesOf_pending_of_error he])
  · intro hwritable hok
    have hcontent : bytesOf (s.drain tree).1 = .ok (chunkBytes (s.pending tree)) := by
      rw [hdrain, bytesOf_eq_chunkBytes hok]
    obtain ⟨count, tree', hwrite⟩ : ∃ count tree', s.writeTo tree path time = (.ok count, tree') :=
      exists_writeTo hcontent hwritable
    obtain ⟨rfl, hreplace⟩ := replace_of_writeTo hcontent hwrite
    refine ⟨tree', hwrite, read_of_writeTo hcontent hwrite, ?_⟩
    intro location hother
    exact FileTree.get?_replace_of_ne hreplace hother
  · intro name hfree
    exact writeBeside_eq_writeTo hfree path time

/-- A file that is spliced with another one, framed with its own tag and replaced by the result; and
the same file when the other one is missing, which shows after three pieces. -/
theorem writeTo_allOrNothing_own_input :
    let tree : FileTree :=
      ⟨[(["a"], .file [0x49, 0x44, 0x33, 4, 0, 0, 0, 0, 0, 0, 7, 8, 9] 0), (["b"], .file [1] 0)]⟩
    ∃ s broken, start tree Programs.plain ["a", "b", "a"] ⟨9, some "a", .default⟩ = .ok s ∧
      start tree Programs.plain ["a", "c", "a"] ⟨9, some "a", .default⟩ = .ok broken ∧
      tree.Writable "a" ∧
      (∃ tree', s.writeTo tree "a" 5 = (.ok 17, tree') ∧
        tree'.read "a" =
          .ok [0x49, 0x44, 0x33, 4, 0, 0, 0, 0, 0, 0, 7, 8, 9, 1, 7, 8, 9] ∧
        tree'.get? ["b"] = some (.file [1] 0)) ∧
      broken.writeTo tree "a" 5 = (.error (.io .notFound), tree) := by
  intro tree
  have hwritable : tree.Writable "a" := ⟨rfl, _, rfl⟩
  have hlocate : tree.locate "a" = .ok ["a"] := rfl
  have hall : ∀ s : Splice, 0 < s.chunkSize → ∀ items : List Item,
      (∀ n, ((s.afterCalls tree n).next tree).1 = items[n]?) → items = s.pending tree :=
    fun s hsize items hnext =>
      List.ext_getElem? fun n => (hnext n).symm.trans (next_afterCalls hsize n)
  obtain ⟨s, hs⟩ : ∃ s : Splice, s = ⟨9, .head, [0x49, 0x44, 0x33, 4, 0, 0, 0, 0, 0, 0], 0,
    .files [] ["a", "b", "a"], []⟩ := ⟨_, rfl⟩
  obtain ⟨broken, hbroken⟩ : ∃ broken : Splice,
    broken = { s with body := .files [] ["a", "c", "a"] } := ⟨_, rfl⟩
  have hitems : s.pending tree = [.ok [0x49, 0x44, 0x33, 4, 0, 0, 0, 0, 0], .ok [0],
      .ok [7, 8, 9], .ok [1], .ok [7, 8, 9]] := by
    rw [hs]
    rfl
  have herror : broken.pending tree = [.ok [0x49, 0x44, 0x33, 4, 0, 0, 0, 0, 0], .ok [0],
      .ok [7, 8, 9], .error (.io .notFound)] := by
    rw [hbroken, hs]
    rfl
  have hsize : 0 < s.chunkSize := by rw [hs]; decide
  have hsize' : 0 < broken.chunkSize := by rw [hbroken]; exact hsize
  refine ⟨s, broken, by rw [hs]; rfl, by rw [hbroken, hs]; rfl, hwritable, ?_, ?_⟩
  · obtain ⟨items, hnext, -, -, hwritten, -⟩ := writeTo_allOrNothing tree s hsize "a" 5
    rw [hall s hsize items hnext, hitems] at hwritten
    obtain ⟨tree', hwrite, hread, hother⟩ := hwritten hwritable (by simp)
    exact ⟨tree', hwrite, hread, hother ["b"] (by simp [hlocate])⟩
  · obtain ⟨items, hnext, -, hfailed, -⟩ := writeTo_allOrNothing tree broken hsize' "a" 5
    rw [hall broken hsize' items hnext, herror] at hfailed
    obtain ⟨e, hwrite, he⟩ := hfailed (.io .notFound) (by simp)
    rw [hwrite, he hwritable]

end Splice

end ClipSplice

import ClipSplice.Proofs.LibraryPlaylist

/-!
# Where the files of a library lie

`FilePath.resolve` takes single dots and pairs of dots out of a path, without a look at the files. A
name that never steps above the directory from which it is taken leads to a place under that
directory, and only such names do so from every directory (`FilePath.forall_under_join_iff`). So the
files of a playlist lie under the directories of the library if their names are of this kind
(`Library.playlist_under`). Other names are not refused (`Library.playlist_outside`).
-/

namespace ClipSplice

namespace FilePath

/-! ## Resolving paths -/

/-- One step up on a resolved way: the last component is taken away. Where there is none, the step
leads nowhere from the root and stays in front of a relative path. -/
def stepUp (absolute : Bool) (done : List String) : List String :=
  if done.getLast? = some ".." || (done.isEmpty && !absolute) then done ++ [".."] else done.dropLast

/-- One more step on a resolved way. -/
def step (absolute : Bool) (done : List String) (name : String) : List String :=
  if name = "." then done else if name = ".." then stepUp absolute done else done ++ [name]

/-- The components of a path when all dots that can be taken out are taken out. -/
def resolve (path : FilePath) : List String := path.steps.foldl (step path.isAbsolute) []

/-- A path leads to `base` or to a place below it. -/
def Under (base path : FilePath) : Prop :=
  path.isAbsolute = base.isAbsolute ∧
    ∃ below, path.resolve = base.resolve ++ below ∧ ".." ∉ below

/-- Whether some steps that are taken `depth` levels below a directory never lead above it. -/
def staysBelow : (depth : Nat) → List String → Bool
  | _, [] => true
  | depth, name :: names =>
    if name = "." then staysBelow depth names
    else if name = ".." then depth ≠ 0 && staysBelow (depth - 1) names
    else staysBelow (depth + 1) names

/-! ## Joining -/

theorem splitSlashes_ne_nil (text : List Char) : splitSlashes text ≠ [] := by
  induction text with
  | nil => exact List.cons_ne_nil [] []
  | cons c rest ih =>
    rw [splitSlashes]
    split
    · exact List.cons_ne_nil _ _
    · split <;> exact List.cons_ne_nil _ _

theorem splitSlashes_append_slash (front back : List Char) :
    splitSlashes (front ++ '/' :: back) = splitSlashes front ++ splitSlashes back := by
  induction front with
  | nil => rfl
  | cons c front ih =>
    rw [List.cons_append, splitSlashes, splitSlashes, ih]
    by_cases hslash : c = '/'
    · rw [if_pos hslash, if_pos hslash, List.cons_append]
    · obtain ⟨piece, pieces, hpieces⟩ := List.exists_cons_of_ne_nil (splitSlashes_ne_nil front)
      rw [if_neg hslash, if_neg hslash, hpieces]
      rfl

theorem steps_append_slash (front back : FilePath) :
    steps (front ++ "/" ++ back) = front.steps ++ back.steps := by
  have htext : (front ++ "/" ++ back).toList = front.toList ++ '/' :: back.toList := by
    rw [String.toList_append, String.toList_append, List.append_assoc]
    rfl
  rw [steps, htext, splitSlashes_append_slash, List.map_append, List.filter_append]
  rfl

theorem join_empty {name : FilePath} (hname : name.isAbsolute = false) : join "" name = name := by
  simp [join, hname]

/-- Behind a directory that is written out, a relative name stands behind a slash. -/
theorem exists_join_eq {base name : FilePath} (hname : name.isAbsolute = false) (hbase : base ≠ "") :
    ∃ front : FilePath, base.join name = front ++ "/" ++ name ∧
      (base = front ∨ base = front ++ "/") := by
  rw [join, hname, if_neg Bool.false_ne_true]
  by_cases hslash : base.endsInSlash = true
  · have hlast : base.toList.getLast? = some '/' := by simpa [endsInSlash] using hslash
    obtain ⟨front, hfront⟩ := List.getLast?_eq_some_iff.1 hlast
    have heq : base = .ofList front ++ "/" := by
      rw [← String.toList_inj, hfront, String.toList_append, String.toList_ofList]
      rfl
    refine ⟨.ofList front, ?_, .inr heq⟩
    rw [hslash, Bool.or_true, if_pos rfl, ← heq]
  · exact ⟨base, by rw [if_neg (by simp [hbase, hslash])], .inl rfl⟩

theorem steps_join {base name : FilePath} (hname : name.isAbsolute = false) :
    (base.join name).steps = base.steps ++ name.steps := by
  by_cases hempty : base = ""
  · rw [hempty, join_empty hname]
    rfl
  · obtain ⟨front, hjoin, rfl | rfl⟩ := exists_join_eq hname hempty
    · rw [hjoin, steps_append_slash]
    · have hfront : steps (front ++ "/") = front.steps := by
        have hsteps := steps_append_slash front ""
        rwa [String.append_empty, show steps "" = [] from rfl, List.append_nil] at hsteps
      rw [hjoin, steps_append_slash, hfront]

theorem isAbsolute_join {base name : FilePath} (hname : name.isAbsolute = false) :
    (base.join name).isAbsolute = base.isAbsolute := by
  by_cases hempty : base = ""
  · rw [hempty, join_empty hname, hname]
    rfl
  · obtain ⟨c, rest, hbase⟩ : ∃ c rest, base.toList = c :: rest :=
      List.exists_cons_of_ne_nil fun hnil => hempty (String.toList_eq_nil_iff.1 hnil)
    obtain ⟨front, hjoin, hfront | hfront⟩ := exists_join_eq hname hempty
    · rw [hjoin, isAbsolute, isAbsolute, ← hfront, String.toList_append, String.toList_append,
        hbase]
      rfl
    · rw [hjoin, isAbsolute, isAbsolute, ← hfront, String.toList_append, hbase]
      rfl

/-- A joined path is resolved by taking the steps of the name from the resolved directory. -/
theorem resolve_join {base name : FilePath} (hname : name.isAbsolute = false) :
    (base.join name).resolve = name.steps.foldl (step base.isAbsolute) base.resolve := by
  rw [resolve, resolve, isAbsolute_join hname, steps_join hname, List.foldl_append]

/-! ## Names that stay below -/

theorem stepUp_append {absolute : Bool} {front : List String} {last : String} (h : last ≠ "..") :
    stepUp absolute (front ++ [last]) = front := by
  have hlast : ¬ ((front ++ [last]).getLast? = some ".." ||
      ((front ++ [last]).isEmpty && !absolute)) = true := by
    simp [h]
  rw [stepUp, if_neg hlast, List.dropLast_concat]

/-- One step from a place below a directory leads to another place below it, unless it is a step up
from the directory itself. -/
theorem step_append_cases (absolute : Bool) (base : List String) {below : List String}
    (hbelow : ".." ∉ below) (name : String) :
    (∃ below', step absolute (base ++ below) name = base ++ below' ∧ ".." ∉ below' ∧
      ∀ names, staysBelow below.length (name :: names) = staysBelow below'.length names) ∨
    (name = ".." ∧ below = []) := by
  by_cases hdot : name = "."
  · refine .inl ⟨below, by rw [step, if_pos hdot], hbelow, fun names => ?_⟩
    rw [staysBelow, if_pos hdot]
  · by_cases hup : name = ".."
    · by_cases hnil : below = []
      · exact .inr ⟨hup, hnil⟩
      · obtain ⟨front, last, rfl⟩ : ∃ front last, below = front ++ [last] :=
          ⟨_, _, (List.dropLast_concat_getLast hnil).symm⟩
        rw [List.mem_append, List.mem_singleton, not_or] at hbelow
        refine .inl ⟨front, ?_, hbelow.1, fun names => ?_⟩
        · rw [step, if_neg hdot, if_pos hup, ← List.append_assoc, stepUp_append (Ne.symm hbelow.2)]
        · rw [staysBelow, if_neg hdot, if_pos hup, List.length_append, List.length_singleton,
            Nat.add_sub_cancel]
          simp
    · refine .inl ⟨below ++ [name], ?_, ?_, fun names => ?_⟩
      · rw [step, if_neg hdot, if_neg hup, List.append_assoc]
      · rw [List.mem_append, List.mem_singleton, not_or]
        exact ⟨hbelow, Ne.symm hup⟩
      · rw [staysBelow, if_neg hdot, if_neg hup, List.length_append, List.length_singleton]

/-- Steps that stay below a directory only add to the way there and take away what they added. -/
theorem foldl_step_of_staysBelow (absolute : Bool) (base : List String) {below names : List String}
    (hbelow : ".." ∉ below) (hstays : staysBelow below.length names) :
    ∃ below', names.foldl (step absolute) (base ++ below) = base ++ below' ∧ ".." ∉ below' := by
  induction names generalizing below with
  | nil => exact ⟨below, rfl, hbelow⟩
  | cons name names ih =>
    obtain ⟨below', hstep, hbelow', hsame⟩ | ⟨rfl, rfl⟩ :=
      step_append_cases absolute base hbelow name
    · rw [List.foldl_cons, hstep]
      exact ih hbelow' (hsame names ▸ hstays)
    · cases hstays

/-- A pair of dots at the start of a relative way stays there. -/
theorem head?_foldl_step {done names : List String} (h : done.head? = some "..") :
    (names.foldl (step false) done).head? = some ".." := by
  induction names generalizing done with
  | nil => exact h
  | cons name names ih =>
    rw [List.foldl_cons]
    refine ih ?_
    obtain ⟨rest, rfl⟩ : ∃ rest, done = ".." :: rest := List.head?_eq_some_iff.1 h
    unfold step stepUp
    split
    · rfl
    · split
      · split
        · rfl
        · rename_i hlast
          -- the pair of dots in front is not taken away as the last component
          cases rest with
          | nil => simp at hlast
          | cons second rest => rfl
      · rfl

/-- Steps that do not stay below the working directory resolve to a way out of it. -/
theorem head?_foldl_step_of_not_staysBelow {below names : List String} (hbelow : ".." ∉ below)
    (hleaves : ¬ staysBelow below.length names) :
    (names.foldl (step false) below).head? = some ".." := by
  induction names generalizing below with
  | nil => exact absurd rfl hleaves
  | cons name names ih =>
    rw [List.foldl_cons]
    obtain ⟨below', hstep, hbelow', hsame⟩ | ⟨rfl, rfl⟩ := step_append_cases false [] hbelow name
    · have hstep' : step false below name = below' := hstep
      rw [hstep']
      exact ih hbelow' (hsame names ▸ hleaves)
    · exact head?_foldl_step rfl

theorem under_join {base name : FilePath} (hname : name.isAbsolute = false)
    (hstays : staysBelow 0 name.steps) : Under base (base.join name) := by
  obtain ⟨below, hresolve, hbelow⟩ : ∃ below, name.steps.foldl (step base.isAbsolute)
      (base.resolve ++ []) = base.resolve ++ below ∧ ".." ∉ below :=
    foldl_step_of_staysBelow base.isAbsolute base.resolve List.not_mem_nil hstays
  rw [List.append_nil] at hresolve
  exact ⟨isAbsolute_join hname, below, (resolve_join hname).trans hresolve, hbelow⟩

/-- The relative names that lead to a place under every directory from which they are taken are
those that never step above it. -/
theorem forall_under_join_iff {name : FilePath} (hname : name.isAbsolute = false) :
    (∀ base, Under base (base.join name)) ↔ staysBelow 0 name.steps := by
  refine ⟨fun h => Decidable.byContradiction fun hleaves => ?_,
    fun hstays base => under_join hname hstays⟩
  -- taken from the working directory, a way out is seen by the dots in front
  obtain ⟨-, below, hresolve, hbelow⟩ := h ""
  have hhead : (name.steps.foldl (step false) []).head? = some ".." :=
    head?_foldl_step_of_not_staysBelow List.not_mem_nil hleaves
  rw [resolve_join hname] at hresolve
  have heq : name.steps.foldl (step false) [] = below := hresolve
  rw [heq] at hhead
  exact hbelow (List.mem_of_head? hhead)

end FilePath

/-! ## Libraries -/

namespace Library

open FilePath

variable {library : Library} {tree : FileTree} {now : Instant} {name : String} {rule : Rule}

/-- A name that never steps above the directory from which it is taken. -/
def StaysInside (name : String) : Prop := staysBelow 0 (steps (relative name))

instance (name : String) : Decidable (StaysInside name) := inferInstanceAs (Decidable (_ = true))

theorem isAbsolute_relative (name : String) : isAbsolute (relative name) = false := by
  have hhead := List.head?_dropWhile_not (fun c => decide (c = '/')) name.toList
  rw [isAbsolute, relative, String.toList_ofList, decide_eq_false_iff_not]
  intro hslash
  simp [hslash] at hhead

theorem under_mainPath (hstays : StaysInside name) : Under library.mainDir (library.mainPath name) :=
  under_join (isAbsolute_relative name) hstays

theorem eq_join_of_clipPath {path : FilePath} (h : library.clipPath tree name = .ok path) :
    path = library.clipDir.join (relative name) := by
  simp only [clipPath] at h
  split at h
  · exact (Except.ok.inj h).symm
  · cases h

theorem under_of_clipPath {path : FilePath} (h : library.clipPath tree name = .ok path)
    (hstays : StaysInside name) : Under library.clipDir path := by
  rw [eq_join_of_clipPath h]
  exact under_join (isAbsolute_relative name) hstays

theorem clipPath_of_clipFile? {clip : Symbol} {path : FilePath}
    (h : library.clipFile? tree clip = some path) : library.clipPath tree clip.text = .ok path := by
  simp only [clipFile?] at h
  split at h
  · rename_i hfile
    rw [Option.some.inj h] at hfile
    simp only [clipPath, Option.some.inj h]
    exact if_pos hfile
  · cases h

/-- A file that is played is the main file, or that of a clip. -/
theorem mem_playlist {files : List FilePath} (h : library.playlist tree now name rule = .ok files)
    {path : FilePath} (hpath : path ∈ files) :
    path = library.mainPath name ∨ ∃ symbols, rule.playlist? (ruleName name) now = some symbols ∧
      ∃ clip ∈ symbols, clip.isOriginal = false ∧ library.clipPath tree clip.text = .ok path := by
  cases hfound : rule.playlist? (ruleName name) now with
  | none =>
    rw [playlist_of_none hfound] at h
    cases h
    exact absurd hpath List.not_mem_nil
  | some symbols =>
    have happlies : (rule.playlist? (ruleName name) now).isSome := by rw [hfound]; rfl
    cases hfile : tree.isFile (library.mainPath name) with
    | false => exact absurd (h.symm.trans (playlist_of_missing happlies hfile)) nofun
    | true =>
      by_cases husable : Usable tree (library.mainPath name)
      · obtain ⟨before, after, rfl, hclips, hfiles⟩ := playlist_of_usable hfound hfile husable
        have hclip : ∀ clip ∈ before ++ after, library.clipFile? tree clip = some path →
            ∃ clip ∈ before ++ .original (ruleName name) :: after, clip.isOriginal = false ∧
              library.clipPath tree clip.text = .ok path := by
          intro clip hmem hsome
          refine ⟨clip, ?_, hclips clip hmem, clipPath_of_clipFile? hsome⟩
          rw [List.mem_append] at hmem ⊢
          exact hmem.imp_right (List.mem_cons_of_mem _)
        rw [Except.ok.inj (h.symm.trans hfiles), List.mem_append, List.mem_cons,
          List.mem_filterMap, List.mem_filterMap] at hpath
        rcases hpath with ⟨clip, hmem, hsome⟩ | hmain | ⟨clip, hmem, hsome⟩
        · exact .inr ⟨_, rfl, hclip clip (List.mem_append_left _ hmem) hsome⟩
        · exact .inl hmain
        · exact .inr ⟨_, rfl, hclip clip (List.mem_append_right _ hmem) hsome⟩
      · obtain ⟨-, hnil⟩ | ⟨-, e, he⟩ := playlist_of_unusable happlies hfile husable
        · cases Except.ok.inj (h.symm.trans hnil)
          exact absurd hpath List.not_mem_nil
        · exact absurd (h.symm.trans he) nofun

/-- Names that never step above the directory from which they are taken lead to places inside the
library: to one under the directory for main files for a name that is asked for, and to one under
the directory for clips for a clip, whatever text it was filled with. These are the only names for
which every library keeps to its directory. -/
theorem playlist_under (library : Library) (tree : FileTree) (now : Instant) (name : String)
    (rule : Rule) :
    (∀ name, StaysInside name → Under library.mainDir (library.mainPath name)) ∧
    (∀ name path, library.clipPath tree name = .ok path → StaysInside name →
      Under library.clipDir path) ∧
    (∀ files, library.playlist tree now name rule = .ok files → ∀ path ∈ files,
      path = library.mainPath name ∧ (StaysInside name → Under library.mainDir path) ∨
      ∃ symbols, rule.playlist? (ruleName name) now = some symbols ∧
        ∃ clip ∈ symbols, clip.isOriginal = false ∧ library.clipPath tree clip.text = .ok path ∧
          (StaysInside clip.text → Under library.clipDir path)) ∧
    ∀ name, (∀ library : Library, Under library.mainDir (library.mainPath name)) ↔
      StaysInside name := by
  refine ⟨fun name => under_mainPath, fun name path => under_of_clipPath, ?_, ?_⟩
  · intro files hfiles path hpath
    obtain hmain | ⟨symbols, hfound, clip, hmem, hclip, hfile⟩ := mem_playlist hfiles hpath
    · rw [hmain]
      exact .inl ⟨rfl, under_mainPath⟩
    · exact .inr ⟨symbols, hfound, clip, hmem, hclip, hfile, under_of_clipPath hfile⟩
  · intro name
    rw [StaysInside, ← forall_under_join_iff (isAbsolute_relative name)]
    exact ⟨fun h base => h { mainDir := base, clipDir := "" }, fun h library => h library.mainDir⟩

/-- A name with a way down and up again, and a clip with a slash too many. -/
theorem playlist_under_way_back :
    let frame : Bytes := [0xff, 0xf3, 0x14, 0] ++ List.replicate 20 7
    let tree : FileTree := ⟨[(["m"], .directory), (["m", "x"], .directory),
      (["m", "a"], .file frame 0), (["c"], .directory), (["c", "b"], .file [] 0)]⟩
    let library : Library := { mainDir := "m", clipDir := "c" }
    let rule : Rule := .clips none ["/b"] []
    (library.playlist tree .first "x/../a" rule).toOption = some ["c/b", "m/x/../a"] ∧
      StaysInside "x/../a" ∧ StaysInside "/b" ∧ Under "m" "m/x/../a" ∧ Under "c" "c/b" := by
  intro frame tree library rule
  have hname : StaysInside "x/../a" := by decide +kernel
  have hclip : StaysInside "/b" := by decide +kernel
  have hplaylist : (library.playlist tree .first "x/../a" rule).toOption =
      some ["c/b", "m/x/../a"] := by decide +kernel
  have hsymbols : rule.playlist? (ruleName "x/../a") .first =
      some [.clip "/b", .original "x/../a"] := by decide +kernel
  have hpath : library.mainPath "x/../a" = "m/x/../a" := by decide +kernel
  obtain ⟨hmain, -, hfiles, -⟩ := playlist_under library tree .first "x/../a" rule
  refine ⟨hplaylist, hname, hclip, hpath ▸ hmain "x/../a" hname, ?_⟩
  cases hok : library.playlist tree .first "x/../a" rule with
  | error e =>
    rw [hok] at hplaylist
    cases hplaylist
  | ok files =>
    rw [hok] at hplaylist
    cases hplaylist
    obtain ⟨heq, -⟩ | ⟨symbols, hfound, clip, hmem, hplain, -, hunder⟩ :=
      hfiles _ hok "c/b" List.mem_cons_self
    · exact absurd heq (by decide +kernel)
    · cases hsymbols.symm.trans hfound
      rcases List.mem_cons.1 hmem with rfl | hmem
      · exact hunder hclip
      · cases List.mem_singleton.1 hmem
        cases hplain

/-- Nothing keeps a name from stepping out of the library. The main file that is asked for here, and
the clip that is filled with its name, lie beside the directories and not under them. -/
theorem playlist_outside :
    let frame : Bytes := [0xff, 0xf3, 0x14, 0] ++ List.replicate 20 7
    let tree : FileTree := ⟨[(["m"], .directory), (["c"], .directory), (["s"], .file frame 0)]⟩
    let library : Library := { mainDir := "m", clipDir := "c" }
    let regex : AnchoredRegex := (AnchoredRegex.new? "(.*)" .none).get (by decide +kernel)
    let rule : Rule := .clips (some (.regex regex)) ["$1"] []
    (library.playlist tree .first "../s" rule).toOption = some ["c/../s", "m/../s"] ∧
      ¬ Under "c" "c/../s" ∧ ¬ Under "m" "m/../s" := by
  intro frame tree library regex rule
  have hclip : resolve "c/../s" = ["s"] ∧ resolve "c" = ["c"] := by decide +kernel
  have hmain : resolve "m/../s" = ["s"] ∧ resolve "m" = ["m"] := by decide +kernel
  refine ⟨by decide +kernel, ?_, ?_⟩
  · rintro ⟨-, below, hbelow, -⟩
    rw [hclip.1, hclip.2] at hbelow
    simp at hbelow
  · rintro ⟨-, below, hbelow, -⟩
    rw [hmain.1, hmain.2] at hbelow
    simp at hbelow

end Library

end ClipSplice

import ClipSplice.Library
import ClipSplice.Proofs.DecisionList

/-!
# What a library serves

For a name there are four cases: no rule applies, the main file is missing, it cannot be spliced, or
it can. `Library.playlist_cases` says what is played in each of them, and what is served when it is
to be combined. The main file is played once wherever a playlist is made, and clips that do not
exist are all that is ever left out.
-/

namespace ClipSplice

/-! ## Names -/

theorem Library.relative_cons_slash (rest : List Char) :
    relative (.ofList ('/' :: rest)) = relative (.ofList rest) := by
  simp [relative]

/-- The slash that rules do not see makes no difference to where a file lies. -/
theorem Library.relative_ruleName (name : String) : relative (ruleName name) = relative name := by
  unfold ruleName
  split
  · rename_i rest hname
    rw [← relative_cons_slash, ← hname, String.ofList_toList]
  · rfl

theorem Library.mainPath_ruleName (library : Library) (name : String) :
    library.mainPath (ruleName name) = library.mainPath name := by
  rw [mainPath, mainPath, relative_ruleName]

/-! ## Playlists of rules -/

/-- A playlist is the name with clips around it. -/
theorem Rule.exists_clips_of_playlist? {rule : Rule} {name : String} {now : Instant}
    {symbols : List Symbol} (h : rule.playlist? name now = some symbols) :
    ∃ before after, symbols = before ++ .original name :: after ∧
      ∀ clip ∈ before ++ after, clip.isOriginal = false := by
  rw [playlist?_eq_find?_leaves] at h
  obtain ⟨leaf, -, rfl⟩ := Option.map_eq_some_iff.1 h
  refine ⟨leaf.pre.map (leaf.clip name now), leaf.post.map (leaf.clip name now), ?_, ?_⟩
  · rw [Leaf.playlist, List.append_assoc, List.singleton_append]
  · rw [← List.map_append]
    intro clip hclip
    obtain ⟨template, -, rfl⟩ := List.mem_map.1 hclip
    rw [Leaf.clip]
    split <;> rfl

namespace Library

variable {library : Library} {tree : FileTree} {now : Instant} {name : String} {rule : Rule}

/-! ## Files -/

/-- A file can be spliced: its parameters are found, and its bitrate does not vary. -/
def Usable (tree : FileTree) (path : FilePath) : Prop :=
  ∃ params, AudioParams.ofFile tree path = .ok params ∧ params.vbr = false

/-- The file of a clip, if it exists. -/
def clipFile? (library : Library) (tree : FileTree) (clip : Symbol) : Option FilePath :=
  let path := library.clipDir.join (relative clip.text)
  if tree.isFile path then some path else none

theorem unusable?_eq_none_iff {path : FilePath} :
    unusable? tree path = none ↔ Usable tree path := by
  unfold unusable? Usable
  cases AudioParams.ofFile tree path with
  | error e => simp
  | ok params => cases hvbr : params.vbr <;> simp [hvbr]

theorem filesOf_clips {clips : List Symbol} (h : ∀ clip ∈ clips, clip.isOriginal = false) :
    library.filesOf tree clips = clips.filterMap (library.clipFile? tree) := by
  induction clips with
  | nil => rw [filesOf, List.filterMap_nil, List.filterMap_nil]
  | cons clip rest ih =>
    have hrest := ih fun other hother => h other (List.mem_cons_of_mem _ hother)
    have hclip : (library.clipPath tree clip.text).toOption = library.clipFile? tree clip := by
      by_cases hfile : tree.isFile (library.clipDir.join (relative clip.text)) <;>
        simp [clipPath, clipFile?, hfile, Except.toOption]
    unfold filesOf at hrest ⊢
    rw [List.filterMap_cons, List.filterMap_cons, if_neg (by simp [h clip List.mem_cons_self]),
      hclip, hrest]

/-- The main file is played where the name stands among the clips. -/
theorem filesOf_playlist {before after : List Symbol}
    (h : ∀ clip ∈ before ++ after, clip.isOriginal = false) :
    library.filesOf tree (before ++ .original (ruleName name) :: after) =
      before.filterMap (library.clipFile? tree) ++
        library.mainPath name :: after.filterMap (library.clipFile? tree) := by
  obtain ⟨hbefore, hafter⟩ := List.forall_mem_append.1 h
  rw [← filesOf_clips hbefore, ← filesOf_clips hafter, ← mainPath_ruleName library name]
  simp only [filesOf, List.filterMap_append, List.filterMap_cons, Symbol.original, if_true]

/-! ## Playlists of libraries -/

theorem playlist_of_none (h : rule.playlist? (ruleName name) now = none) :
    library.playlist tree now name rule = .ok [] := by
  simp only [playlist, h, Option.getD_none]

/-- What is played when a rule applies. -/
theorem playlist_of_some {symbols : List Symbol}
    (h : rule.playlist? (ruleName name) now = some symbols) :
    library.playlist tree now name rule =
      if tree.isFile (library.mainPath name) then
        match unusable? tree (library.mainPath name), library.policy with
        | some e, .strict => .error e
        | some _, .tolerant => .ok []
        | none, _ => .ok (library.filesOf tree symbols)
      else .error (.missingResource (library.mainPath name)) := by
  obtain ⟨before, after, rfl, -⟩ := Rule.exists_clips_of_playlist? h
  simp only [playlist, h, Option.getD_some, mainPath_ruleName]
  split
  · rename_i hnil
    exact absurd hnil (List.append_ne_nil_of_right_ne_nil _ (List.cons_ne_nil _ _))
  · cases tree.isFile (library.mainPath name) with
    | false => rfl
    | true => cases unusable? tree (library.mainPath name) <;> cases library.policy <;> rfl

theorem playlist_of_missing (h : (rule.playlist? (ruleName name) now).isSome)
    (hmissing : tree.isFile (library.mainPath name) = false) :
    library.playlist tree now name rule = .error (.missingResource (library.mainPath name)) := by
  obtain ⟨symbols, hsymbols⟩ := Option.isSome_iff_exists.1 h
  rw [playlist_of_some hsymbols, hmissing, if_neg Bool.false_ne_true]

theorem playlist_of_unusable (h : (rule.playlist? (ruleName name) now).isSome)
    (hfile : tree.isFile (library.mainPath name) = true)
    (hunusable : ¬ Usable tree (library.mainPath name)) :
    (library.policy = .tolerant ∧ library.playlist tree now name rule = .ok []) ∨
      library.policy = .strict ∧ ∃ e, library.playlist tree now name rule = .error e := by
  obtain ⟨symbols, hsymbols⟩ := Option.isSome_iff_exists.1 h
  obtain ⟨e, he⟩ := Option.ne_none_iff_exists'.1 (mt unusable?_eq_none_iff.1 hunusable)
  rw [playlist_of_some hsymbols, if_pos hfile, he]
  cases library.policy with
  | tolerant => exact .inl ⟨rfl, rfl⟩
  | strict => exact .inr ⟨rfl, e, rfl⟩

theorem playlist_of_usable {symbols : List Symbol}
    (h : rule.playlist? (ruleName name) now = some symbols)
    (hfile : tree.isFile (library.mainPath name) = true)
    (husable : Usable tree (library.mainPath name)) :
    ∃ before after, symbols = before ++ .original (ruleName name) :: after ∧
      (∀ clip ∈ before ++ after, clip.isOriginal = false) ∧
      library.playlist tree now name rule = .ok (before.filterMap (library.clipFile? tree) ++
        library.mainPath name :: after.filterMap (library.clipFile? tree)) := by
  obtain ⟨before, after, rfl, hclips⟩ := Rule.exists_clips_of_playlist? h
  refine ⟨before, after, rfl, hclips, ?_⟩
  rw [playlist_of_some h, if_pos hfile, unusable?_eq_none_iff.2 husable]
  exact congrArg Except.ok (filesOf_playlist hclips)

/-- Nothing is played when no rule applies, and when the main file has to be served as it is. -/
theorem playlist_eq_nil_iff : library.playlist tree now name rule = .ok [] ↔
    rule.playlist? (ruleName name) now = none ∨
      (rule.playlist? (ruleName name) now).isSome ∧ tree.isFile (library.mainPath name) ∧
        ¬ Usable tree (library.mainPath name) ∧ library.policy = .tolerant := by
  constructor
  · intro hplaylist
    cases hfound : rule.playlist? (ruleName name) now with
    | none => exact .inl rfl
    | some symbols =>
      have happlies : (rule.playlist? (ruleName name) now).isSome := by rw [hfound]; rfl
      refine .inr ⟨rfl, ?_⟩
      cases hfile : tree.isFile (library.mainPath name) with
      | false => exact absurd (hplaylist.symm.trans (playlist_of_missing happlies hfile)) nofun
      | true =>
        by_cases husable : Usable tree (library.mainPath name)
        · obtain ⟨before, after, -, -, hfiles⟩ := playlist_of_usable hfound hfile husable
          have hnil := Except.ok.inj (hplaylist.symm.trans hfiles)
          exact absurd hnil.symm (List.append_ne_nil_of_right_ne_nil _ (List.cons_ne_nil _ _))
        · obtain ⟨hpolicy, -⟩ | ⟨-, e, he⟩ := playlist_of_unusable happlies hfile husable
          · exact ⟨rfl, husable, hpolicy⟩
          · exact absurd (hplaylist.symm.trans he) nofun
  · rintro (hnone | ⟨happlies, hfile, hunusable, hpolicy⟩)
    · exact playlist_of_none hnone
    · obtain ⟨-, hnil⟩ | ⟨hstrict, -⟩ := playlist_of_unusable happlies hfile hunusable
      · exact hnil
      · exact absurd (hpolicy.symm.trans hstrict) nofun

/-- A playlist fails when its main file is missing, and when it may not be served as it is. -/
theorem playlist_error_iff : (∃ e, library.playlist tree now name rule = .error e) ↔
    (rule.playlist? (ruleName name) now).isSome ∧ (¬ tree.isFile (library.mainPath name) ∨
      ¬ Usable tree (library.mainPath name) ∧ library.policy = .strict) := by
  constructor
  · rintro ⟨e, he⟩
    cases hfound : rule.playlist? (ruleName name) now with
    | none => exact absurd (he.symm.trans (playlist_of_none hfound)) nofun
    | some symbols =>
      have happlies : (rule.playlist? (ruleName name) now).isSome := by rw [hfound]; rfl
      refine ⟨rfl, ?_⟩
      by_cases hfile : tree.isFile (library.mainPath name)
      · refine .inr ?_
        by_cases husable : Usable tree (library.mainPath name)
        · obtain ⟨before, after, -, -, hfiles⟩ := playlist_of_usable hfound hfile husable
          exact absurd (he.symm.trans hfiles) nofun
        · obtain ⟨-, hnil⟩ | ⟨hstrict, -⟩ := playlist_of_unusable happlies hfile husable
          · exact absurd (he.symm.trans hnil) nofun
          · exact ⟨husable, hstrict⟩
      · exact .inl hfile
  · rintro ⟨happlies, hmissing | ⟨hunusable, hpolicy⟩⟩
    · exact ⟨_, playlist_of_missing happlies (by simpa using hmissing)⟩
    · cases hfile : tree.isFile (library.mainPath name) with
      | false => exact ⟨_, playlist_of_missing happlies hfile⟩
      | true =>
        obtain ⟨htolerant, -⟩ | ⟨-, herror⟩ := playlist_of_unusable happlies hfile hunusable
        · exact absurd (hpolicy.symm.trans htolerant) nofun
        · exact herror

/-! ## Combined files -/

theorem combined_of_error {programs : Programs} {options : SpliceOptions} {e : Error}
    (h : library.playlist tree now name rule = .error e) :
    library.combined tree programs now name rule options = .error e := by
  simp only [combined, h, bind, Except.bind]

theorem combined_of_nil {programs : Programs} {options : SpliceOptions}
    (h : library.playlist tree now name rule = .ok []) :
    library.combined tree programs now name rule options =
      if tree.isFile (library.mainPath name) then .ok (.verbatim (library.mainPath name))
      else .error (.missingResource (library.mainPath name)) := by
  simp only [combined, h, bind, Except.bind, pure, Except.pure]

/-- The main file is the tag source, whichever file the options name. -/
theorem combined_of_files {programs : Programs} {options : SpliceOptions}
    {files : List FilePath} (hne : files ≠ [])
    (h : library.playlist tree now name rule = .ok files) :
    library.combined tree programs now name rule options =
      (Splice.start tree programs files
        { options with tagSource := some (library.mainPath name) }).map .spliced := by
  obtain ⟨file, rest, rfl⟩ := List.exists_cons_of_ne_nil hne
  simp only [combined, h, bind, Except.bind, pure, Except.pure, Except.map]

/-- What a library plays and serves for a name. -/
theorem playlist_cases (library : Library) (tree : FileTree) (programs : Programs) (now : Instant)
    (name : String) (rule : Rule) (options : SpliceOptions) :
    let main := library.mainPath name
    let found := rule.playlist? (ruleName name) now
    let playlist := library.playlist tree now name rule
    let combined := library.combined tree programs now name rule options
    -- nothing is played
    (playlist = .ok [] ↔ found = none ∨
      found.isSome ∧ tree.isFile main ∧ ¬ Usable tree main ∧ library.policy = .tolerant) ∧
    -- nothing can be played
    ((∃ e, playlist = .error e) ↔ found.isSome ∧
      (¬ tree.isFile main ∨ ¬ Usable tree main ∧ library.policy = .strict)) ∧
    (found.isSome → ¬ tree.isFile main → playlist = .error (.missingResource main)) ∧
    -- the main file is played with its clips
    (∀ symbols, found = some symbols → tree.isFile main → Usable tree main →
      ∃ before after, symbols = before ++ .original (ruleName name) :: after ∧
        (∀ clip ∈ before ++ after, clip.isOriginal = false) ∧
        playlist = .ok (before.filterMap (library.clipFile? tree) ++
          main :: after.filterMap (library.clipFile? tree))) ∧
    -- what is served then
    (∀ e, playlist = .error e → combined = .error e) ∧
    (playlist = .ok [] → combined =
      if tree.isFile main then .ok (.verbatim main) else .error (.missingResource main)) ∧
    (∀ files, files ≠ [] → playlist = .ok files → combined =
      (Splice.start tree programs files { options with tagSource := some main }).map .spliced) := by
  intro main found playlist combined
  exact ⟨playlist_eq_nil_iff, playlist_error_iff,
    fun happlies hmissing => playlist_of_missing happlies (by simpa using hmissing),
    fun symbols => playlist_of_usable, fun e => combined_of_error, combined_of_nil,
    fun files => combined_of_files⟩

/-- A name with two slashes, of which a rule sees one, and a clip of two that exists. -/
theorem playlist_cases_slashes :
    let frame : Bytes := [0xff, 0xf3, 0x14, 0] ++ List.replicate 20 7
    let tree : FileTree := ⟨[(["m"], .directory), (["m", "a"], .file frame 0), (["c"], .directory),
      (["c", "b"], .file [] 0)]⟩
    let library : Library := ⟨"m", "c", .strict⟩
    let rule : Rule := .clips none ["b"] ["x"]
    let symbols : List Symbol := [.clip "b", .original "/a", .clip "x"]
    rule.playlist? (ruleName "//a") .first = some symbols ∧
      tree.isFile (library.mainPath "//a") ∧ Usable tree (library.mainPath "//a") ∧
      (∃ before after, symbols = before ++ .original (ruleName "//a") :: after ∧
        (∀ clip ∈ before ++ after, clip.isOriginal = false) ∧
        library.playlist tree .first "//a" rule = .ok (before.filterMap (library.clipFile? tree) ++
          library.mainPath "//a" :: after.filterMap (library.clipFile? tree))) ∧
      (library.playlist tree .first "//a" rule).toOption = some ["c/b", "m/a"] := by
  intro frame tree library rule symbols
  have hfound : rule.playlist? (ruleName "//a") .first = some symbols := by decide +kernel
  have hfile : tree.isFile (library.mainPath "//a") := by decide +kernel
  have husable : Usable tree (library.mainPath "//a") :=
    unusable?_eq_none_iff.1 (Option.isNone_iff_eq_none.1 (by decide +kernel))
  exact ⟨hfound, hfile, husable, (playlist_cases library tree .plain .first "//a" rule
    {}).2.2.2.1 symbols hfound hfile husable, by decide +kernel⟩

end Library

end ClipSplice

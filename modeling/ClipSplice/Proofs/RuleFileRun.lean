import ClipSplice.RuleFile

/-!
# Rule files that change while they are served

A `Watched` rule file stands among files that anyone may change between two questions for its rule.
A question takes over the version that stands there if it is newer than the one that is served and
loads (`RuleFile.current_of_newer`), and leaves the rule as it is otherwise
(`RuleFile.current_of_not_newer`). What holds of every run of edits and questions follows by
induction on its events (`Watched.serves_loaded_versions`).
-/

namespace ClipSplice

variable {tree : FileTree} {path : FilePath} {format : RuleFormat} {rule : Rule}
  {file : RuleFile} {modified time : Nat}

namespace RuleFormat

/-! ## Versions -/

/-- A version of a rule file that loads: the path names a file that was last changed at `modified`,
and its content is a text that writes `rule`. -/
def Loads (format : RuleFormat) (tree : FileTree) (path : FilePath) (rule : Rule)
    (modified : Nat) : Prop :=
  ∃ content text, tree.find path = .ok (.file content modified) ∧
    String.fromUTF8? ⟨content.toArray⟩ = some text ∧ format.read text = .ok rule

theorem load_of_find {content : Bytes} (hfind : tree.find path = .ok (.file content modified)) :
    format.load tree path =
      (String.fromUTF8? ⟨content.toArray⟩).elim (.error (.io .invalidData)) format.read := by
  have hread : tree.read path = .ok content := by
    rw [FileTree.read, hfind]
    rfl
  rw [load, FileTree.readText, hread]
  cases htext : String.fromUTF8? ⟨content.toArray⟩ with
  | none =>
    simp only [bind, Except.bind, htext, Option.elim]
  | some text =>
    simp only [bind, Except.bind, htext, Option.elim]

/-- The time and the content of a version are looked at one after the other. -/
theorem loads_iff : format.Loads tree path rule modified ↔
    tree.modified path = .ok modified ∧ format.load tree path = .ok rule := by
  constructor
  · rintro ⟨content, text, hfind, htext, hrule⟩
    refine ⟨?_, ?_⟩
    · rw [FileTree.modified, hfind]
      rfl
    · rw [load_of_find hfind, htext]
      exact hrule
  · rintro ⟨htime, hload⟩
    cases hfind : tree.find path with
    | error fault =>
      rw [FileTree.modified, hfind] at htime
      cases htime
    | ok entry =>
      cases entry with
      | directory =>
        rw [load, FileTree.readText, FileTree.read, hfind] at hload
        cases hload
      | file content time =>
        rw [FileTree.modified, hfind] at htime
        cases htime
        rw [load_of_find hfind] at hload
        cases htext : String.fromUTF8? ⟨content.toArray⟩ with
        | none =>
          rw [htext] at hload
          cases hload
        | some text =>
          rw [htext] at hload
          exact ⟨content, text, hfind, htext, hload⟩

/-- There is a version that loads and was changed after `served`. -/
def HasNewer (format : RuleFormat) (tree : FileTree) (path : FilePath) (served : Nat) : Prop :=
  ∃ rule modified, format.Loads tree path rule modified ∧ served < modified

end RuleFormat

namespace RuleFile

open RuleFormat

theorem loads_of_openAs (h : openAs tree time path format = .ok file) :
    format.Loads tree path file.rule file.modified ∧ file.path = path ∧ file.format = format ∧
      file.checked = time := by
  rw [openAs] at h
  split at h
  · cases h
  · rename_i modified htime
    cases hload : format.load tree path with
    | error e =>
      rw [hload] at h
      cases h
    | ok rule =>
      rw [hload] at h
      cases h
      exact ⟨loads_iff.2 ⟨htime, hload⟩, rfl, rfl, rfl⟩

/-! ## One question -/

theorem reload_of_newer (hloads : file.format.Loads tree file.path rule modified)
    (hnewer : file.modified < modified) :
    file.reload tree = { file with rule, modified, reloads := file.reloads + 1 } := by
  obtain ⟨htime, hload⟩ := loads_iff.1 hloads
  simp only [reload, htime, hload]
  exact if_neg (Nat.not_le.2 hnewer)

theorem reload_of_not_newer (h : ¬ file.format.HasNewer tree file.path file.modified) :
    file.reload tree = file := by
  unfold reload
  split
  · rfl
  · rename_i modified htime
    split
    · rfl
    · rename_i hnewer
      split
      · rename_i rule hload
        exact absurd ⟨rule, modified, loads_iff.2 ⟨htime, hload⟩, Nat.not_le.1 hnewer⟩ h
      · rfl

/-- A file without a refresh interval is looked at whenever its rule is asked for. -/
theorem not_recent (h : file.refresh = 0) : ¬ time - file.checked < file.refresh := by
  rw [h]
  exact Nat.not_lt_zero _

theorem current_of_recent (h : time - file.checked < file.refresh) :
    file.current tree time = file := if_pos h

theorem current_of_newer (hdue : ¬ time - file.checked < file.refresh)
    (hloads : file.format.Loads tree file.path rule modified) (hnewer : file.modified < modified) :
    file.current tree time =
      { file with rule, modified, reloads := file.reloads + 1, checked := time } := by
  rw [current, if_neg hdue, reload_of_newer hloads hnewer]

theorem current_of_not_newer (hdue : ¬ time - file.checked < file.refresh)
    (h : ¬ file.format.HasNewer tree file.path file.modified) :
    file.current tree time = { file with checked := time } := by
  rw [current, if_neg hdue, reload_of_not_newer h]

/-- All that a question can do to a rule file. -/
theorem current_cases (tree : FileTree) (time : Nat) (file : RuleFile) :
    (∃ checked, file.current tree time = { file with checked }) ∨
    ∃ rule modified, file.format.Loads tree file.path rule modified ∧ file.modified < modified ∧
      file.current tree time =
        { file with rule, modified, reloads := file.reloads + 1, checked := time } := by
  by_cases hdue : time - file.checked < file.refresh
  · exact .inl ⟨file.checked, current_of_recent hdue⟩
  · by_cases hnewer : file.format.HasNewer tree file.path file.modified
    · obtain ⟨rule, modified, hloads, hlater⟩ := hnewer
      exact .inr ⟨rule, modified, hloads, hlater, current_of_newer hdue hloads hlater⟩
    · exact .inl ⟨time, current_of_not_newer hdue hnewer⟩

end RuleFile

/-! ## Runs -/

/-- What happens to a rule file that is served, and to the files around it. -/
inductive FileEvent where
  /-- Somebody changes the files, in whatever way. -/
  | edit (change : FileTree → FileTree)
  /-- The rule is asked for. -/
  | current (time : Nat)
  /-- The symbols for a name are asked for. -/
  | evaluate (time : Nat) (now : Instant) (name : String)

namespace FileEvent

/-- A file is written, with any content and any time of its last change. -/
def write (path : FilePath) (content : Bytes) (modified : Nat) : FileEvent :=
  .edit fun tree => tree.store path content modified

/-- A file is removed if it is there. -/
def remove (path : FilePath) : FileEvent := .edit fun tree => (tree.remove? path).getD tree

/-- When an event asks for the rule; an edit does not. -/
def askedAt? : FileEvent → Option Nat
  | .edit _ => none
  | .current time => some time
  | .evaluate time _ _ => some time

end FileEvent

/-- A rule file, and the files among which it stands. -/
structure Watched where
  tree : FileTree
  file : RuleFile

namespace Watched

open RuleFile RuleFormat

variable {watched : Watched} {event : FileEvent} {events : List FileEvent}

/-- The state after an event. -/
def step (watched : Watched) : FileEvent → Watched
  | .edit change => { watched with tree := change watched.tree }
  | .current time => { watched with file := watched.file.current watched.tree time }
  | .evaluate time now name =>
    { watched with file := (watched.file.evaluate watched.tree time now name).2 }

/-- The state after some events. -/
def run (watched : Watched) (events : List FileEvent) : Watched := events.foldl step watched

theorem run_cons : watched.run (event :: events) = (watched.step event).run events := rfl

theorem step_of_asked (h : event.askedAt? = some time) :
    watched.step event = { watched with file := watched.file.current watched.tree time } := by
  cases event with
  | edit change => cases h
  | current at' =>
    cases h
    rfl
  | evaluate at' now name =>
    cases h
    rfl

theorem file_step_of_not_asked (h : event.askedAt? = none) :
    (watched.step event).file = watched.file := by
  cases event with
  | edit change => rfl
  | current at' => cases h
  | evaluate at' now name => cases h

/-- All that an event can do to the rule file. -/
theorem file_step_cases (watched : Watched) (event : FileEvent) :
    (∃ checked, (watched.step event).file = { watched.file with checked }) ∨
    ∃ rule modified checked, watched.file.format.Loads watched.tree watched.file.path rule modified ∧
      watched.file.modified < modified ∧ (watched.step event).file =
        { watched.file with rule, modified, reloads := watched.file.reloads + 1, checked } := by
  cases hasked : event.askedAt? with
  | none => exact .inl ⟨watched.file.checked, file_step_of_not_asked hasked⟩
  | some time =>
    rw [step_of_asked hasked]
    obtain hkept | ⟨rule, modified, hloads, hnewer, hfile⟩ :=
      current_cases watched.tree time watched.file
    · exact .inl hkept
    · exact .inr ⟨rule, modified, time, hloads, hnewer, hfile⟩

/-- Where the file lies, how it is written and how often it is looked at stay the same. -/
theorem settings_run (watched : Watched) (events : List FileEvent) :
    (watched.run events).file.path = watched.file.path ∧
      (watched.run events).file.format = watched.file.format ∧
      (watched.run events).file.refresh = watched.file.refresh := by
  induction events generalizing watched with
  | nil => exact ⟨rfl, rfl, rfl⟩
  | cons event events ih =>
    rw [run_cons]
    obtain ⟨hpath, hformat, hrefresh⟩ := ih (watched.step event)
    rw [hpath, hformat, hrefresh]
    obtain ⟨_, hfile⟩ | ⟨_, _, _, -, -, hfile⟩ := file_step_cases watched event
    · rw [hfile]
      exact ⟨rfl, rfl, rfl⟩
    · rw [hfile]
      exact ⟨rfl, rfl, rfl⟩

theorem modified_le_run (watched : Watched) (events : List FileEvent) :
    watched.file.modified ≤ (watched.run events).file.modified := by
  induction events generalizing watched with
  | nil => exact Nat.le_refl _
  | cons event events ih =>
    refine Nat.le_trans ?_ (ih (watched.step event))
    obtain ⟨_, hfile⟩ | ⟨_, _, _, -, hnewer, hfile⟩ := file_step_cases watched event
    · exact Nat.le_of_eq (congrArg RuleFile.modified hfile).symm
    · rw [hfile]
      exact Nat.le_of_lt hnewer

/-- The rule that is served at the end was served at the start, or was taken over from a version
that stood there during the run. -/
theorem served_run (watched : Watched) (events : List FileEvent) :
    ((watched.run events).file.rule = watched.file.rule ∧
      (watched.run events).file.modified = watched.file.modified) ∨
    ∃ before after, events = before ++ after ∧
      watched.file.format.Loads (watched.run before).tree watched.file.path
        (watched.run events).file.rule (watched.run events).file.modified := by
  induction events generalizing watched with
  | nil => exact .inl ⟨rfl, rfl⟩
  | cons event events ih =>
    rw [run_cons]
    obtain ⟨hpath, hformat, -⟩ := settings_run watched [event]
    obtain ⟨hrule, hmodified⟩ | ⟨before, after, rfl, hloads⟩ := ih (watched.step event)
    · rw [hrule, hmodified]
      obtain ⟨_, hfile⟩ | ⟨rule, modified, _, hloads, -, hfile⟩ := file_step_cases watched event
      · rw [hfile]
        exact .inl ⟨rfl, rfl⟩
      · rw [hfile]
        exact .inr ⟨[], event :: events, rfl, hloads⟩
    · refine .inr ⟨event :: before, after, rfl, ?_⟩
      rw [run_cons, ← hpath, ← hformat]
      exact hloads

/-- No question of a run finds a version that loads and was changed after `served`. -/
def FindsNothing (format : RuleFormat) (path : FilePath) (served : Nat) :
    Watched → List FileEvent → Prop
  | _, [] => True
  | watched, event :: events =>
    (event.askedAt?.isSome → ¬ format.HasNewer watched.tree path served) ∧
      FindsNothing format path served (watched.step event) events

/-- A run that finds nothing leaves the rule that is served in place. -/
theorem file_run_of_findsNothing (watched : Watched) (events : List FileEvent)
    (h : FindsNothing watched.file.format watched.file.path watched.file.modified watched events) :
    ∃ checked, (watched.run events).file = { watched.file with checked } := by
  induction events generalizing watched with
  | nil => exact ⟨watched.file.checked, rfl⟩
  | cons event events ih =>
    obtain ⟨hnone, hrest⟩ := h
    obtain ⟨checked, hfile⟩ :
        ∃ checked, (watched.step event).file = { watched.file with checked } := by
      obtain hkept | ⟨rule, modified, _, hloads, hnewer, -⟩ := file_step_cases watched event
      · exact hkept
      · cases hasked : event.askedAt? with
        | none => exact ⟨watched.file.checked, file_step_of_not_asked hasked⟩
        | some time => exact absurd ⟨rule, modified, hloads, hnewer⟩ (hnone (by rw [hasked]; rfl))
    obtain ⟨later, hrun⟩ := ih (watched.step event) (by
      rw [hfile]
      exact hrest)
    refine ⟨later, ?_⟩
    rw [run_cons, hrun, hfile]

/-! ## Files that are looked at on every question -/

theorem file_step_of_newer (hrefresh : watched.file.refresh = 0)
    (hasked : event.askedAt? = some time)
    (hloads : watched.file.format.Loads watched.tree watched.file.path rule modified)
    (hnewer : watched.file.modified < modified) :
    (watched.step event).file = { watched.file with
      rule, modified, reloads := watched.file.reloads + 1, checked := time } := by
  rw [step_of_asked hasked]
  exact current_of_newer (not_recent hrefresh) hloads hnewer

theorem file_step_of_not_newer (hrefresh : watched.file.refresh = 0)
    (hasked : event.askedAt? = some time)
    (h : ¬ watched.file.format.HasNewer watched.tree watched.file.path watched.file.modified) :
    (watched.step event).file = { watched.file with checked := time } := by
  rw [step_of_asked hasked]
  exact current_of_not_newer (not_recent hrefresh) h

/-- Within the refresh interval the file is not looked at. -/
theorem file_run_of_recent (watched : Watched) (events : List FileEvent)
    (h : ∀ event ∈ events, ∀ time, event.askedAt? = some time →
      time - watched.file.checked < watched.file.refresh) :
    (watched.run events).file = watched.file := by
  induction events generalizing watched with
  | nil => rfl
  | cons event events ih =>
    have hfile : (watched.step event).file = watched.file := by
      cases hasked : event.askedAt? with
      | none => exact file_step_of_not_asked hasked
      | some time =>
        rw [step_of_asked hasked]
        exact current_of_recent (h event List.mem_cons_self time hasked)
    rw [run_cons, ih (watched.step event), hfile]
    rw [hfile]
    exact fun later hlater => h later (List.mem_cons_of_mem event hlater)

/-- What a rule file serves that was opened among some files and is then asked for its rule while
anyone changes the files, if it looks at its file whenever it is asked.

A question takes over the version that stands there if it is newer than the one that is served and
loads, and changes neither the rule nor its time otherwise; symbols are always those of the rule
that is then served. So the rule at every moment is that of a version that stood there, with its
time, and times never decrease. Versions that do not load, and old ones, are passed over however
often they are found, and the first question that finds a newer one that loads takes it over. With
a longer refresh interval, the rule stays what it was. -/
theorem serves_loaded_versions (opening : FileTree) (time : Nat) (path : FilePath)
    (format : RuleFormat) (file : RuleFile) (hopen : openAs opening time path format = .ok file)
    (events : List FileEvent) :
    let start : Watched := ⟨opening, file.withRefresh 0⟩
    let state := start.run events
    -- one question, after whatever happened
    (∀ event asked, event.askedAt? = some asked →
      (∀ rule modified, format.Loads state.tree path rule modified →
        state.file.modified < modified →
        (state.step event).file = { state.file with
          rule, modified, reloads := state.file.reloads + 1, checked := asked }) ∧
      (¬ format.HasNewer state.tree path state.file.modified →
        (state.step event).file = { state.file with checked := asked })) ∧
    (∀ asked name now, (state.file.evaluate state.tree asked now name).1 =
      (state.step (.evaluate asked now name)).file.rule.playlist? name now) ∧
    -- the rule that is served
    (∃ before after, events = before ++ after ∧
      format.Loads (start.run before).tree path state.file.rule state.file.modified) ∧
    (∀ more, state.file.modified ≤ (state.run more).file.modified) ∧
    -- versions that are passed over, and the next one that is not
    (∀ more, FindsNothing format path state.file.modified state more →
      (∃ checked, (state.run more).file = { state.file with checked }) ∧
      ∀ event asked rule modified, event.askedAt? = some asked →
        format.Loads (state.run more).tree path rule modified → state.file.modified < modified →
        ((state.run more).step event).file = { state.file with
          rule, modified, reloads := state.file.reloads + 1, checked := asked }) ∧
    -- a refresh interval that is not over
    ∀ refresh, (∀ event ∈ events, ∀ asked, event.askedAt? = some asked →
        asked - time < refresh) →
      ((⟨opening, file.withRefresh refresh⟩ : Watched).run events).file =
        file.withRefresh refresh := by
  intro start state
  obtain ⟨hloaded, rfl, rfl, rfl⟩ := loads_of_openAs hopen
  obtain ⟨hpath, hformat, hrefresh⟩ := settings_run start events
  have hzero : state.file.refresh = 0 := hrefresh
  refine ⟨?_, ?_, ?_, modified_le_run state, ?_, ?_⟩
  · intro event asked hasked
    refine ⟨?_, ?_⟩
    · intro rule modified hloads hnewer
      exact file_step_of_newer hzero hasked (hpath ▸ hformat ▸ hloads) hnewer
    · intro hnone
      exact file_step_of_not_newer hzero hasked (hpath ▸ hformat ▸ hnone)
  · intro asked name now
    rfl
  · obtain ⟨hrule, hmodified⟩ | hfound := served_run start events
    · refine ⟨[], events, rfl, ?_⟩
      rw [hrule, hmodified]
      exact hloaded
    · exact hfound
  · intro more hnothing
    obtain ⟨checked, hfile⟩ : ∃ checked, (state.run more).file = { state.file with checked } :=
      file_run_of_findsNothing state more (hpath ▸ hformat ▸ hnothing)
    refine ⟨⟨checked, hfile⟩, ?_⟩
    intro event asked rule modified hasked hloads hnewer
    have hstep : ((state.run more).step event).file = { (state.run more).file with
        rule, modified, reloads := (state.run more).file.reloads + 1, checked := asked } := by
      refine file_step_of_newer ?_ hasked ?_ ?_
      · rw [hfile]
        exact hzero
      · rw [hfile]
        exact hpath ▸ hformat ▸ hloads
      · rw [hfile]
        exact hnewer
    rw [hstep, hfile]
  · intro refresh hrecent
    exact file_run_of_recent ⟨opening, file.withRefresh refresh⟩ events hrecent

/-- An edit that breaks the file, the file taken away, and an edit that mends it but is older than
the broken one. -/
theorem serves_loaded_versions_mended :
    let opening : FileTree := ⟨[(["r"], .file "pre: [a]".toUTF8.toList 5)]⟩
    let events : List FileEvent := [.write "r" "pre: [".toUTF8.toList 8, .current 1, .remove "r",
      .current 2, .write "r" "post: [b]".toUTF8.toList 7]
    ∃ file, openAs opening 0 "r" .grammar = .ok file ∧
      let start : Watched := ⟨opening, file.withRefresh 0⟩
      (∃ checked, (start.run events).file = { start.file with checked }) ∧
      (((start.run events).file.evaluate (start.run events).tree 3 .first "x").1 =
        some [.original "x", .clip "b"]) ∧
      ((⟨opening, file.withRefresh 60⟩ : Watched).run events).file = file.withRefresh 60 := by
  intro opening events
  let broken : FileTree := opening.store "r" "pre: [".toUTF8.toList 8
  let removed : FileTree := (broken.remove? "r").getD broken
  let mended : FileTree := removed.store "r" "post: [b]".toUTF8.toList 7
  have hopens : (openAs opening 0 "r" .grammar).toOption.isSome := by decide +kernel
  have hmodified : (openAs opening 0 "r" .grammar).toOption.map RuleFile.modified = some 5 := by
    decide +kernel
  cases hopen : openAs opening 0 "r" .grammar with
  | error e =>
    rw [hopen] at hopens
    cases hopens
  | ok file =>
    rw [hopen] at hmodified
    replace hmodified : file.modified = 5 := Option.some.inj hmodified
    refine ⟨file, rfl, ?_⟩
    intro start
    have hmended : (RuleFormat.grammar.load mended "r").toOption.map (·.playlist? "x" .first) =
        some (some [.original "x", .clip "b"]) := by decide +kernel
    -- the file as the two questions find it cannot be loaded
    have hbroken : ∀ tree, (RuleFormat.grammar.load tree "r").toOption.isNone →
        ¬ RuleFormat.grammar.HasNewer tree "r" start.file.modified := by
      rintro tree hnone ⟨rule, modified, hloads, -⟩
      rw [(loads_iff.1 hloads).2] at hnone
      cases hnone
    have hnothing : FindsNothing .grammar "r" start.file.modified start events := by
      refine ⟨nofun, fun _ => hbroken broken ?_, nofun, fun _ => hbroken removed ?_, nofun, trivial⟩
      · decide +kernel
      · decide +kernel
    obtain ⟨-, -, -, -, hquiet, -⟩ := serves_loaded_versions opening 0 "r" .grammar file hopen []
    obtain ⟨hkept, htaken⟩ := hquiet events hnothing
    obtain ⟨-, hanswer, -, -, -, hinterval⟩ :=
      serves_loaded_versions opening 0 "r" .grammar file hopen events
    refine ⟨hkept, ?_, ?_⟩
    · cases hload : RuleFormat.grammar.load mended "r" with
      | error e =>
        rw [hload] at hmended
        cases hmended
      | ok rule =>
        rw [hload] at hmended
        have hloads : RuleFormat.grammar.Loads mended "r" rule 7 := loads_iff.2 ⟨rfl, hload⟩
        have hlater : file.modified < 7 := by
          rw [hmodified]
          decide
        have hstep : ((start.run events).step (.evaluate 3 .first "x")).file.rule = rule :=
          congrArg RuleFile.rule (htaken (.evaluate 3 .first "x") 3 rule 7 rfl hloads hlater)
        rw [hanswer 3 "x" .first, hstep]
        exact Option.some.inj hmended
    · have hrecent : ∀ event ∈ events, ∀ asked ∈ event.askedAt?, asked - 0 < 60 := by decide
      exact hinterval 60 hrecent

end Watched

end ClipSplice

import ClipSplice.Audio.Probe
import Mathlib

/-!
# Agreement of files

`AudioParams.fields` lists the parameters of a file with their names, in the order in which they are
compared. Two files disagree on the first field in which these lists differ
(`AudioParams.mismatch?_eq_some_iff`). A check of several files passes just when all of them have
parameters and these are equal; otherwise it reports the first file that cannot be probed or differs
from the first one (`checkAgreement_ok_and_error_iff`).
-/

namespace ClipSplice

/-! ## The first difference of two lists -/

/-- Two lists have one first difference. -/
theorem eq_of_first_difference {α : Type} {front front' back back' behind behind' : List α}
    {x x' y y' : α} (hx : front ++ x :: back = front' ++ x' :: back')
    (hy : front ++ y :: behind = front' ++ y' :: behind') (hne : x ≠ y) (hne' : x' ≠ y') :
    x = x' ∧ y = y' := by
  induction front generalizing front' with
  | nil =>
    cases front' with
    | nil => exact ⟨(List.cons.inj hx).1, (List.cons.inj hy).1⟩
    | cons z front' => exact absurd ((List.cons.inj hx).1.trans (List.cons.inj hy).1.symm) hne
  | cons z front ih =>
    cases front' with
    | nil => exact absurd ((List.cons.inj hx).1.symm.trans (List.cons.inj hy).1) hne'
    | cons z' front' => exact ih (List.cons.inj hx).2 (List.cons.inj hy).2

namespace AudioParams

/-! ## Two files -/

/-- The parameters with their names and as texts, in the order in which they are compared. -/
def fields (params : AudioParams) : List (String × String) :=
  [("vbr", boolText params.vbr), ("bitrate", toString params.bitrate),
    ("samplerate", toString params.sampleRate), ("mode", params.mode.letter)]

theorem boolText_inj {a b : Bool} : boolText a = boolText b ↔ a = b := by
  cases a <;> cases b <;> decide

theorem toString_inj {m n : Nat} : toString m = toString n ↔ m = n := Nat.repr_inj

theorem letter_inj {a b : ChannelMode} : a.letter = b.letter ↔ a = b := by
  cases a <;> cases b <;> decide

theorem eq_iff {a b : AudioParams} : a = b ↔
    a.vbr = b.vbr ∧ a.bitrate = b.bitrate ∧ a.sampleRate = b.sampleRate ∧ a.mode = b.mode := by
  cases a
  cases b
  exact AudioParams.mk.injEq .. ▸ Iff.rfl

/-- A mismatch reports the first field in which two files differ, with both its values. -/
def FirstDifference (expected actual : AudioParams) (m : Mismatch) : Prop :=
  ∃ front back back', expected.fields = front ++ (m.field, m.expected) :: back ∧
    actual.fields = front ++ (m.field, m.actual) :: back' ∧ m.expected ≠ m.actual

variable {expected actual : AudioParams}

theorem FirstDifference.unique {m m' : Mismatch} (h : FirstDifference expected actual m)
    (h' : FirstDifference expected actual m') : m = m' := by
  obtain ⟨front, back, behind, hexpected, hactual, hne⟩ := h
  obtain ⟨front', back', behind', hexpected', hactual', hne'⟩ := h'
  have hpairs := eq_of_first_difference (hexpected.symm.trans hexpected')
    (hactual.symm.trans hactual') (fun heq => hne (congrArg Prod.snd heq))
    (fun heq => hne' (congrArg Prod.snd heq))
  obtain ⟨field, value, other⟩ := m
  obtain ⟨field', value', other'⟩ := m'
  simp_all

theorem firstDifference_of_mismatch? {m : Mismatch} (h : expected.mismatch? actual = some m) :
    FirstDifference expected actual m := by
  unfold mismatch? at h
  split_ifs at h with hvbr hbitrate hrate hmode <;> obtain rfl := Option.some.inj h
  · refine ⟨[], expected.fields.drop 1, actual.fields.drop 1, rfl, rfl, ?_⟩
    exact fun heq => hvbr (boolText_inj.1 heq)
  · refine ⟨expected.fields.take 1, expected.fields.drop 2, actual.fields.drop 2, rfl, ?_, ?_⟩
    · simp only [fields, not_ne_iff.1 hvbr]
      rfl
    · exact fun heq => hbitrate (toString_inj.1 heq)
  · refine ⟨expected.fields.take 2, expected.fields.drop 3, actual.fields.drop 3, rfl, ?_, ?_⟩
    · simp only [fields, not_ne_iff.1 hvbr, not_ne_iff.1 hbitrate]
      rfl
    · exact fun heq => hrate (toString_inj.1 heq)
  · refine ⟨expected.fields.take 3, expected.fields.drop 4, actual.fields.drop 4, rfl, ?_, ?_⟩
    · simp only [fields, not_ne_iff.1 hvbr, not_ne_iff.1 hbitrate, not_ne_iff.1 hrate]
      rfl
    · exact fun heq => hmode (letter_inj.1 heq)

theorem mismatch?_eq_none_iff : expected.mismatch? actual = none ↔ actual = expected := by
  unfold mismatch?
  rw [eq_comm (a := actual), eq_iff]
  split_ifs <;> simp_all

/-- What is reported is the first difference. -/
theorem mismatch?_eq_some_iff {m : Mismatch} :
    expected.mismatch? actual = some m ↔ FirstDifference expected actual m := by
  constructor
  · exact firstDifference_of_mismatch?
  · intro hfirst
    cases hfound : expected.mismatch? actual with
    | some m' => rw [hfirst.unique (firstDifference_of_mismatch? hfound)]
    | none =>
      obtain ⟨front, back, back', hexpected, hactual, hne⟩ := hfirst
      rw [mismatch?_eq_none_iff.1 hfound, hexpected] at hactual
      have hpair := (List.cons.inj (List.append_cancel_left hactual)).1
      exact absurd (congrArg Prod.snd hpair) hne

/-! ## The parameters of a file -/

variable {tree : FileTree} {params : AudioParams}

theorem ofBytes?_of_ofFile {path : FilePath} {bytes : Bytes} (hread : tree.read path = .ok bytes)
    (h : ofFile tree path = .ok params) : ofBytes? bytes = some params := by
  unfold ofFile at h
  simp only [hread] at h
  split at h
  · rename_i found hfound
    cases h
    exact hfound
  · cases h

theorem ofFile_of_ofBytes? {path : FilePath} {bytes : Bytes} (hread : tree.read path = .ok bytes)
    (h : ofBytes? bytes = some params) : ofFile tree path = .ok params := by
  simp only [ofFile, hread, h]

end AudioParams

open AudioParams

/-! ## Several files -/

section

variable {tree : FileTree} {expected : AudioParams}

/-- The error reports the first difference of a file from what is expected. -/
def Differs (tree : FileTree) (expected : AudioParams) (path : FilePath) (e : Error) : Prop :=
  ∃ actual m, ofFile tree path = .ok actual ∧ FirstDifference expected actual m ∧ e = .mismatch m

/-- The error that a file is to blame for: it cannot be probed, or it differs. -/
def Blames (tree : FileTree) (expected : AudioParams) (path : FilePath) (e : Error) : Prop :=
  ofFile tree path = .error e ∨ Differs tree expected path e

theorem not_blames_of_ok {path : FilePath} (h : ofFile tree path = .ok expected) (e : Error) :
    ¬ Blames tree expected path e := by
  rintro (herror | ⟨actual, m, hok, hfirst, -⟩)
  · rw [h] at herror
    cases herror
  · obtain rfl := Except.ok.inj (h.symm.trans hok)
    rw [← mismatch?_eq_some_iff, mismatch?_eq_none_iff.2 rfl] at hfirst
    cases hfirst

theorem agreeWith_cons_of_ok {path : FilePath} (h : ofFile tree path = .ok expected)
    (paths : List FilePath) :
    agreeWith tree expected (path :: paths) = agreeWith tree expected paths := by
  simp only [agreeWith, h, bind, Except.bind, mismatch?_eq_none_iff.2]

/-- A file that is not as expected is to blame for one error, and the comparison ends with it. -/
theorem agreeWith_cons_of_ne {path : FilePath} (h : ofFile tree path ≠ .ok expected)
    (paths : List FilePath) : ∃ e, agreeWith tree expected (path :: paths) = .error e ∧
      ∀ e', Blames tree expected path e' ↔ e' = e := by
  rw [agreeWith]
  cases hactual : ofFile tree path with
  | error e =>
    refine ⟨e, rfl, fun e' => ⟨?_, ?_⟩⟩
    · rintro (herror | ⟨actual, m, hok, -⟩)
      · exact Except.error.inj (herror.symm.trans hactual)
      · rw [hactual] at hok
        cases hok
    · rintro rfl
      exact .inl hactual
  | ok actual =>
    cases hfound : expected.mismatch? actual with
    | none =>
      rw [hactual, mismatch?_eq_none_iff.1 hfound] at h
      exact absurd rfl h
    | some m =>
      have hfirst := mismatch?_eq_some_iff.1 hfound
      refine ⟨.mismatch m, by simp only [bind, Except.bind, hfound], fun e' => ⟨?_, ?_⟩⟩
      · rintro (herror | ⟨actual', m', hok, hfirst', rfl⟩)
        · rw [hactual] at herror
          cases herror
        · obtain rfl := Except.ok.inj (hactual.symm.trans hok)
          rw [hfirst'.unique hfirst]
      · rintro rfl
        exact .inr ⟨actual, m, hactual, hfirst, rfl⟩

theorem agreeWith_eq_ok_iff {paths : List FilePath} :
    agreeWith tree expected paths = .ok () ↔ ∀ path ∈ paths, ofFile tree path = .ok expected := by
  induction paths with
  | nil => exact ⟨fun _ => nofun, fun _ => rfl⟩
  | cons path paths ih =>
    rw [List.forall_mem_cons, ← ih]
    by_cases hok : ofFile tree path = .ok expected
    · rw [agreeWith_cons_of_ok hok]
      exact ⟨fun h => ⟨hok, h⟩, And.right⟩
    · obtain ⟨e, herror, -⟩ := agreeWith_cons_of_ne hok paths
      rw [herror]
      exact ⟨nofun, fun h => absurd h.1 hok⟩

/-- The first file that does not have the expected parameters is to blame. -/
theorem agreeWith_eq_error_iff {paths : List FilePath} {e : Error} :
    agreeWith tree expected paths = .error e ↔ ∃ before path after,
      paths = before ++ path :: after ∧ (∀ other ∈ before, ofFile tree other = .ok expected) ∧
        Blames tree expected path e := by
  induction paths with
  | nil =>
    constructor
    · exact nofun
    · rintro ⟨before, path, after, h, -⟩
      exact absurd h.symm (List.append_ne_nil_of_right_ne_nil _ (List.cons_ne_nil _ _))
  | cons path paths ih =>
    simp only [List.cons_eq_append_iff]
    by_cases hok : ofFile tree path = .ok expected
    · rw [agreeWith_cons_of_ok hok, ih]
      constructor
      · rintro ⟨before, blamed, after, rfl, hbefore, hblames⟩
        exact ⟨path :: before, blamed, after, .inr ⟨before, rfl, rfl⟩,
          List.forall_mem_cons.2 ⟨hok, hbefore⟩, hblames⟩
      · rintro ⟨before, blamed, after, ⟨rfl, hhere⟩ | ⟨more, rfl, rfl⟩, hbefore, hblames⟩
        · obtain rfl := (List.cons.inj hhere).1
          exact absurd hblames (not_blames_of_ok hok e)
        · exact ⟨more, blamed, after, rfl, (List.forall_mem_cons.1 hbefore).2, hblames⟩
    · obtain ⟨e', herror, hblames⟩ := agreeWith_cons_of_ne hok paths
      rw [herror, Except.error.injEq]
      constructor
      · rintro rfl
        exact ⟨[], path, paths, .inl ⟨rfl, rfl⟩, nofun, (hblames e').2 rfl⟩
      · rintro ⟨before, blamed, after, ⟨rfl, hhere⟩ | ⟨more, rfl, rfl⟩, hbefore, hblamed⟩
        · obtain rfl := (List.cons.inj hhere).1
          exact ((hblames e).1 hblamed).symm
        · exact absurd (hbefore path List.mem_cons_self) hok

/-- Files agree when they all have the same parameters. -/
theorem checkAgreement_eq_ok_iff {paths : List FilePath} :
    checkAgreement tree paths = .ok () ↔
      ∃ params, ∀ path ∈ paths, ofFile tree path = .ok params := by
  cases paths with
  | nil => exact ⟨fun _ => ⟨⟨false, 0, 0, .stereo⟩, nofun⟩, fun _ => rfl⟩
  | cons first rest =>
    cases hfirst : ofFile tree first with
    | error e =>
      simp only [checkAgreement, hfirst, bind, Except.bind]
      refine ⟨nofun, fun ⟨params, hall⟩ => ?_⟩
      rw [hall first List.mem_cons_self] at hfirst
      cases hfirst
    | ok expected =>
      simp only [checkAgreement, hfirst, bind, Except.bind]
      rw [agreeWith_eq_ok_iff]
      constructor
      · exact fun hrest => ⟨expected, List.forall_mem_cons.2 ⟨hfirst, hrest⟩⟩
      · rintro ⟨params, hall⟩ path hpath
        rw [hall path (List.mem_cons_of_mem _ hpath), ← hall first List.mem_cons_self, hfirst]

/-- Files that agree have the parameters of the first of them. -/
theorem ofFile_of_checkAgreement {first : FilePath} {rest : List FilePath}
    (h : checkAgreement tree (first :: rest) = .ok ())
    (hfirst : ofFile tree first = .ok expected) :
    ∀ path ∈ first :: rest, ofFile tree path = .ok expected := by
  obtain ⟨params, hall⟩ := checkAgreement_eq_ok_iff.1 h
  obtain rfl := Except.ok.inj ((hall first List.mem_cons_self).symm.trans hfirst)
  exact hall

/-- Fewer files, in any order and repeated at will, agree if the files do. -/
theorem checkAgreement_of_subset {paths others : List FilePath} (hsubset : others ⊆ paths)
    (h : checkAgreement tree paths = .ok ()) : checkAgreement tree others = .ok () := by
  obtain ⟨params, hall⟩ := checkAgreement_eq_ok_iff.1 h
  exact checkAgreement_eq_ok_iff.2 ⟨params, fun path hpath => hall path (hsubset hpath)⟩

/-- The first file that cannot be probed, or that differs from the first of all, is to blame. -/
theorem checkAgreement_eq_error_iff {paths : List FilePath} {e : Error} :
    checkAgreement tree paths = .error e ↔ ∃ before path after expected,
      paths = before ++ path :: after ∧ (∀ other ∈ before, ofFile tree other = .ok expected) ∧
        (ofFile tree path = .error e ∨ before ≠ [] ∧ Differs tree expected path e) := by
  cases paths with
  | nil =>
    constructor
    · exact nofun
    · rintro ⟨before, path, after, expected, h, -⟩
      exact absurd h.symm (List.append_ne_nil_of_right_ne_nil _ (List.cons_ne_nil _ _))
  | cons first rest =>
    simp only [List.cons_eq_append_iff]
    cases hfirst : ofFile tree first with
    | error e' =>
      simp only [checkAgreement, hfirst, bind, Except.bind, Except.error.injEq]
      constructor
      · rintro rfl
        exact ⟨[], first, rest, ⟨false, 0, 0, .stereo⟩, .inl ⟨rfl, rfl⟩, nofun, .inl hfirst⟩
      · rintro ⟨before, path, after, expected, ⟨rfl, hhere⟩ | ⟨more, rfl, rfl⟩, hbefore, hblamed⟩
        · obtain rfl := (List.cons.inj hhere).1
          rcases hblamed with herror | ⟨hne, -⟩
          · exact Except.error.inj (hfirst.symm.trans herror)
          · exact absurd rfl hne
        · rw [hbefore first List.mem_cons_self] at hfirst
          cases hfirst
    | ok expected =>
      simp only [checkAgreement, hfirst, bind, Except.bind]
      rw [agreeWith_eq_error_iff]
      constructor
      · rintro ⟨before, path, after, rfl, hbefore, hblames⟩
        exact ⟨first :: before, path, after, expected, .inr ⟨before, rfl, rfl⟩,
          List.forall_mem_cons.2 ⟨hfirst, hbefore⟩, hblames.imp_right fun hdiffers =>
            ⟨List.cons_ne_nil _ _, hdiffers⟩⟩
      · rintro ⟨before, path, after, expected', ⟨rfl, hhere⟩ | ⟨more, rfl, rfl⟩, hbefore, hblamed⟩
        · obtain rfl := (List.cons.inj hhere).1
          rcases hblamed with herror | ⟨hne, -⟩
          · rw [hfirst] at herror
            cases herror
          · exact absurd rfl hne
        · obtain ⟨hhead, hmore⟩ := List.forall_mem_cons.1 hbefore
          obtain rfl := Except.ok.inj (hfirst.symm.trans hhead)
          exact ⟨more, path, after, rfl, hmore, hblamed.imp_right And.right⟩

/-- Files agree just when all of them have parameters and any two have the same, so that neither the
order of files nor their number matters. Otherwise the error belongs to the first file that cannot
be probed or that differs from the first of all: it is the error of probing that file, or it names
the first field, in the order of `AudioParams.fields`, in which the two differ, and the value of the
first file is the one that was expected. -/
theorem checkAgreement_ok_and_error_iff (tree : FileTree) (paths : List FilePath) :
    (checkAgreement tree paths = .ok () ↔ ∀ path ∈ paths, ∀ other ∈ paths, ∃ a b,
      ofFile tree path = .ok a ∧ ofFile tree other = .ok b ∧
        a.vbr = b.vbr ∧ a.bitrate = b.bitrate ∧ a.sampleRate = b.sampleRate ∧ a.mode = b.mode) ∧
    (∀ others, others.Perm paths →
      (checkAgreement tree others = .ok () ↔ checkAgreement tree paths = .ok ())) ∧
    (∀ others, others ⊆ paths → checkAgreement tree paths = .ok () →
      checkAgreement tree others = .ok ()) ∧
    ∀ e, checkAgreement tree paths = .error e ↔ ∃ before path after expected,
      paths = before ++ path :: after ∧ (∀ other ∈ before, ofFile tree other = .ok expected) ∧
        (ofFile tree path = .error e ∨ before ≠ [] ∧ ∃ actual m, ofFile tree path = .ok actual ∧
          FirstDifference expected actual m ∧ e = .mismatch m) := by
  refine ⟨?_, fun others hperm => ⟨?_, ?_⟩, fun others => checkAgreement_of_subset,
    fun e => checkAgreement_eq_error_iff⟩
  · rw [checkAgreement_eq_ok_iff]
    constructor
    · rintro ⟨params, hall⟩ path hpath other hother
      exact ⟨params, params, hall path hpath, hall other hother, rfl, rfl, rfl, rfl⟩
    · intro hequal
      cases paths with
      | nil => exact ⟨⟨false, 0, 0, .stereo⟩, nofun⟩
      | cons first rest =>
        obtain ⟨params, -, hfirst, -⟩ := hequal first List.mem_cons_self first List.mem_cons_self
        refine ⟨params, fun path hpath => ?_⟩
        obtain ⟨a, b, ha, hb, hfields⟩ := hequal path hpath first List.mem_cons_self
        rw [ha, AudioParams.eq_iff.2 hfields, ← hb, hfirst]
  · exact checkAgreement_of_subset hperm.symm.subset
  · exact checkAgreement_of_subset hperm.subset

/-- Two files of one frame each with different bitrates, and one that is missing: which of the two
faults is reported depends on what comes first. -/
theorem checkAgreement_ok_and_error_iff_two_bitrates :
    let slow : Bytes := [0xff, 0xf3, 0x14, 0] ++ List.replicate 20 7
    let fast : Bytes := [0xff, 0xf3, 0x24, 0] ++ List.replicate 44 7
    let tree : FileTree := ⟨[(["slow"], .file slow 0), (["fast"], .file fast 0)]⟩
    checkAgreement tree ["slow", "slow", "fast", "missing"] =
        .error (.mismatch ⟨"bitrate", "8", "16"⟩) ∧
      checkAgreement tree ["slow", "missing", "fast"] =
        .error (.media "missing" (.io .notFound)) := by
  intro slow fast tree
  have hslow : ofFile tree "slow" = .ok ⟨false, 8, 24000, .stereo⟩ :=
    ofFile_of_ofBytes? (show tree.read "slow" = .ok slow from rfl) (by decide +kernel)
  have hfast : ofFile tree "fast" = .ok ⟨false, 16, 24000, .stereo⟩ :=
    ofFile_of_ofBytes? (show tree.read "fast" = .ok fast from rfl) (by decide +kernel)
  have hdiffers : FirstDifference ⟨false, 8, 24000, .stereo⟩ ⟨false, 16, 24000, .stereo⟩
      ⟨"bitrate", "8", "16"⟩ :=
    ⟨[("vbr", "false")], [("samplerate", "24000"), ("mode", "s")],
      [("samplerate", "24000"), ("mode", "s")], rfl, rfl, by decide⟩
  obtain ⟨-, -, -, herror⟩ :=
    checkAgreement_ok_and_error_iff tree ["slow", "slow", "fast", "missing"]
  obtain ⟨-, -, -, herror'⟩ := checkAgreement_ok_and_error_iff tree ["slow", "missing", "fast"]
  constructor
  · refine (herror _).2 ⟨["slow", "slow"], "fast", ["missing"], ⟨false, 8, 24000, .stereo⟩, rfl,
      ?_, .inr ⟨?_, ?_⟩⟩
    · exact List.forall_mem_cons.2 ⟨hslow, List.forall_mem_cons.2 ⟨hslow, nofun⟩⟩
    · exact List.cons_ne_nil _ _
    · exact ⟨_, _, hfast, hdiffers, rfl⟩
  · refine (herror' _).2 ⟨["slow"], "missing", ["fast"], ⟨false, 8, 24000, .stereo⟩, rfl, ?_,
      .inl rfl⟩
    exact List.forall_mem_cons.2 ⟨hslow, nofun⟩

end

end ClipSplice

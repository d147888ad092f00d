import ClipSplice.Proofs.LeftTexts
import ClipSplice.Proofs.WordReading

/-!
# Where trees stand in a rule text

The grammar of rule texts as a relation between trees and texts, which tells for each construct of a
tree the text from its first character on. It knows nothing of the marks in a tree. A tree stands in
a text in one way only (`TextAt.unique`), and its constructs start with characters of their own
(`RulesAt.within`).
-/

namespace ClipSplice.RuleText

open Reader

/-! ## Constructs -/

/-- A part of a tree that can be at fault: an option of a condition with the options before it, a
condition that is not made from others, or a clip list with the clip lists before it. -/
inductive Construct where
  | option (owner : ConditionTree) (earlier : List OptionTree) (option : OptionTree)
  | condition (tree : ConditionTree)
  | clause (earlier : List ClauseTree) (clause : ClauseTree)

/-- The mark of a condition that is not made from others. -/
def ConditionTree.place? : ConditionTree → Option Nat
  | .regex place _ _ => some place
  | .glob place _ _ => some place
  | .date place _ _ => some place
  | _ => none

/-- The mark of a construct. -/
def Construct.place? : Construct → Option Nat
  | .option _ _ tree => some tree.place
  | .condition tree => tree.place?
  | .clause _ tree => some tree.place

/-- A construct and the text from its first character on. -/
structure Located where
  construct : Construct
  after : List Char

/-! ## The grammar -/

/-- A text without the blanks and comments in front. -/
abbrev behindSpace (text : List Char) : List Char := skipSpace false text

/-- An option is written in front of `rest`. -/
inductive OptionAt (option : OptionTree) (text rest : List Char) : Prop where
  | word (hkey : bareWord text = .done option.key rest) (hvalue : option.value = none)
  | valued {behind inner : List Char} {value : String}
    (hkey : bareWord text = .done option.key behind)
    (hequals : behindSpace behind = '=' :: inner)
    (hread : string (behindSpace inner) = .done value rest) (hvalue : option.value = some value)

/-- Options with commas between them, of which some stand before. -/
inductive OptionsAt (owner : ConditionTree) :
    (earlier options : List OptionTree) → (text rest : List Char) → List Located → Prop where
  | last {earlier : List OptionTree} {option : OptionTree} {text rest : List Char}
    (hoption : OptionAt option (behindSpace text) rest) :
    OptionsAt owner earlier [option] text rest
      [⟨.option owner earlier option, behindSpace text⟩]
  | cons {earlier options : List OptionTree} {option : OptionTree}
    {text behind next rest : List Char} {located : List Located}
    (hoption : OptionAt option (behindSpace text) behind)
    (hcomma : behindSpace behind = ',' :: next)
    (hoptions : OptionsAt owner (earlier ++ [option]) options next rest located) :
    OptionsAt owner earlier (option :: options) text rest
      (⟨.option owner earlier option, behindSpace text⟩ :: located)

/-- Options between brackets, or none. -/
inductive MaybeOptionsAt (owner : ConditionTree) :
    List OptionTree → (text rest : List Char) → List Located → Prop where
  | none {text : List Char} : MaybeOptionsAt owner [] text text []
  | some {options : List OptionTree} {text inner behind rest : List Char} {located : List Located}
    (hopen : behindSpace text = '[' :: inner)
    (hoptions : OptionsAt owner [] options inner behind located)
    (hclose : behindSpace behind = ']' :: rest) :
    MaybeOptionsAt owner options text rest located

mutual

/-- A condition is written from the first character on. -/
inductive ConditionAt : ConditionTree → (text rest : List Char) → List Located → Prop where
  | all {members : List ConditionTree} {text behind inner last rest : List Char}
    {located : List Located} (hword : keyword "and" text = .done () behind)
    (hopen : behindSpace behind = '(' :: inner) (hmembers : ConditionsAt members inner last located)
    (hclose : behindSpace last = ')' :: rest) : ConditionAt (.all members) text rest located
  | any {members : List ConditionTree} {text behind inner last rest : List Char}
    {located : List Located} (hword : keyword "or" text = .done () behind)
    (hopen : behindSpace behind = '(' :: inner) (hmembers : ConditionsAt members inner last located)
    (hclose : behindSpace last = ')' :: rest) : ConditionAt (.any members) text rest located
  | negation {tree : ConditionTree} {text behind inner last rest : List Char}
    {located : List Located} (hword : keyword "not" text = .done () behind)
    (hopen : behindSpace behind = '(' :: inner)
    (htree : ConditionAt tree (behindSpace inner) last located)
    (hclose : behindSpace last = ')' :: rest) : ConditionAt (.negation tree) text rest located
  | regex {place : Nat} {pattern : String} {options : List OptionTree}
    {text inner behind rest : List Char} {located : List Located}
    (hword : text = "regex:".toList ++ inner)
    (hpattern : (quoted <|> bareRegex) inner = .done pattern behind)
    (hoptions : MaybeOptionsAt (.regex place pattern options) options behind rest located) :
    ConditionAt (.regex place pattern options) text rest
      (⟨.condition (.regex place pattern options), text⟩ :: located)
  | glob {place : Nat} {name : String} {options : List OptionTree} {text behind rest : List Char}
    {located : List Located} (hname : string text = .done name behind)
    (hoptions : MaybeOptionsAt (.glob place name options) options behind rest located) :
    ConditionAt (.glob place name options) text rest
      (⟨.condition (.glob place name options), text⟩ :: located)
  | date {place : Nat} {span : DateSpan} {options : List OptionTree}
    {text behind rest : List Char} {located : List Located}
    (hspan : (comparedDate <|> dateInterval) text = .done span behind)
    (hoptions : MaybeOptionsAt (.date place span options) options behind rest located) :
    ConditionAt (.date place span options) text rest
      (⟨.condition (.date place span options), text⟩ :: located)

/-- Conditions with commas between them. -/
inductive ConditionsAt : List ConditionTree → (text rest : List Char) → List Located → Prop where
  | last {tree : ConditionTree} {text rest : List Char} {located : List Located}
    (htree : ConditionAt tree (behindSpace text) rest located) :
    ConditionsAt [tree] text rest located
  | cons {tree : ConditionTree} {trees : List ConditionTree} {text behind next rest : List Char}
    {located more : List Located} (htree : ConditionAt tree (behindSpace text) behind located)
    (hcomma : behindSpace behind = ',' :: next) (htrees : ConditionsAt trees next rest more) :
    ConditionsAt (tree :: trees) text rest (located ++ more)

end

/-- A clip list is written from the first character on. -/
structure ClauseAt (clause : ClauseTree) (text rest : List Char) : Prop where
  clips : ∃ behind inner, keyword clause.side.name text = .done () behind ∧
    behindSpace behind = ':' :: inner ∧ clipList inner = .done clause.clips rest

/-- The text behind a comma that may be missing. -/
inductive BehindComma (text : List Char) : List Char → Prop where
  | comma {next : List Char} (hcomma : behindSpace text = ',' :: next) : BehindComma text next
  | none (hnone : ∀ next, behindSpace text ≠ ',' :: next) : BehindComma text (behindSpace text)

/-- One clip list or two. -/
inductive ClausesAt : List ClauseTree → (text rest : List Char) → List Located → Prop where
  | one {clause : ClauseTree} {text rest : List Char}
    (hclause : ClauseAt clause (behindSpace text) rest) :
    ClausesAt [clause] text rest [⟨.clause [] clause, behindSpace text⟩]
  | two {first second : ClauseTree} {text behind next rest : List Char}
    (hfirst : ClauseAt first (behindSpace text) behind) (hcomma : BehindComma behind next)
    (hsecond : ClauseAt second (behindSpace next) rest) :
    ClausesAt [first, second] text rest
      [⟨.clause [] first, behindSpace text⟩, ⟨.clause [first] second, behindSpace next⟩]

mutual

/-- A rule, with blanks and comments in front. -/
inductive RuleAt : RuleTree → (text rest : List Char) → List Located → Prop where
  | plain {rule : RuleTree} {text rest : List Char} {located : List Located}
    (hbody : BodyAt none rule (behindSpace text) rest located) : RuleAt rule text rest located
  | guarded {guard : ConditionTree} {rule : RuleTree} {text behind inner rest : List Char}
    {located more : List Located} (hguard : ConditionAt guard (behindSpace text) behind located)
    (hcolon : behindSpace behind = ':' :: inner)
    (hbody : BodyAt (some guard) rule (behindSpace inner) rest more) :
    RuleAt rule text rest (located ++ more)

/-- What stands behind the guard of a rule. -/
inductive BodyAt : Option ConditionTree → RuleTree → (text rest : List Char) → List Located →
    Prop where
  | default {guard : Option ConditionTree} {text rest : List Char}
    (hword : keyword "default" text = .done () rest) : BodyAt guard (.default guard) text rest []
  | clips {guard : Option ConditionTree} {clauses : List ClauseTree} {text rest : List Char}
    {located : List Located} (hclauses : ClausesAt clauses text rest located) :
    BodyAt guard (.clips guard clauses) text rest located
  | empty {guard : Option ConditionTree} {text inner rest : List Char} (hopen : text = '[' :: inner)
    (hclose : behindSpace inner = ']' :: rest) : BodyAt guard (.list guard []) text rest []
  | list {guard : Option ConditionTree} {rules : List RuleTree} {text inner behind rest : List Char}
    {located : List Located} (hopen : text = '[' :: inner)
    (hrules : RulesAt rules inner behind located) (hclose : behindSpace behind = ']' :: rest) :
    BodyAt guard (.list guard rules) text rest located

/-- Rules with commas between them, which may be missing. -/
inductive RulesAt : List RuleTree → (text rest : List Char) → List Located → Prop where
  | last {rule : RuleTree} {text rest : List Char} {located : List Located}
    (hrule : RuleAt rule text rest located) : RulesAt [rule] text rest located
  | cons {rule : RuleTree} {rules : List RuleTree} {text behind next rest : List Char}
    {located more : List Located} (hrule : RuleAt rule text behind located)
    (hcomma : BehindComma behind next) (hrules : RulesAt rules next rest more) :
    RulesAt (rule :: rules) text rest (located ++ more)

end

/-- Rules make up a whole text. -/
def TextAt (trees : List RuleTree) (text : List Char) (located : List Located) : Prop :=
  ∃ rest, RulesAt trees text rest located ∧ behindSpace rest = []

/-! ## First characters -/

/-- A reader that turns down all other texts takes only those that start with a character of a
kind. -/
theorem exists_of_misses {α : Type} {reader : Reader α} {test : Char → Bool}
    (hmisses : ∀ text, (∀ c, text.head? = some c → test c = false) → Misses reader text)
    {text rest : List Char} {value : α} (h : reader text = .done value rest) :
    ∃ c behind, text = c :: behind ∧ test c = true := by
  by_contra hnone
  obtain ⟨labels, behind, hmiss⟩ := hmisses text fun c hc => by
    obtain ⟨behind, rfl⟩ := List.head?_eq_some_iff.1 hc
    exact Bool.eq_false_iff.2 fun htest => hnone ⟨c, behind, rfl, htest⟩
  cases hmiss.symm.trans h

theorem startsWord_of_bareWord {text rest : List Char} {word : String}
    (h : bareWord text = .done word rest) : startsWord text = true := by
  obtain ⟨found, hread, -⟩ := bind_pure_eq_done_iff.1 h
  obtain ⟨c, behind, rfl, hbare⟩ := exists_of_misses (fun _ => wordOf_misses) hread
  exact startsWord_of_isBare hbare

theorem bareWord_of_keyword {word : String} {text rest : List Char}
    (h : keyword word text = .done () rest) : bareWord text = .done word rest := by
  unfold keyword at h
  split at h
  · rename_i found behind hread
    split at h
    · rename_i hsame
      cases h
      rw [hread, hsame]
    · cases h
  · cases h

theorem startsWord_of_string {text rest : List Char} {value : String}
    (h : string text = .done value rest) : startsWord text = true := by
  obtain hquoted | ⟨-, hplain⟩ := orElse_eq_done_iff.1 h
  · obtain ⟨quote, behind, hquote, -⟩ := bind_eq_done_iff.1 hquoted
    obtain ⟨rfl, hmark⟩ := charWith_eq_done_iff.1 hquote
    have hmark : quote = '\'' ∨ quote = '"' := by simpa using hmark
    obtain rfl | rfl := hmark <;> rfl
  · unfold plainWord at hplain
    split at hplain
    · exact startsWord_of_bareWord ‹_›
    · cases hplain

theorem startsWord_of_dateLiteral {text rest : List Char} {date : DateLiteral}
    (h : dateLiteral text = .done date rest) : startsWord text = true := by
  obtain ⟨c, behind, rfl, hdigit⟩ :=
    exists_of_misses (fun _ hdigit => dateLiteral_misses (dateParts_misses hdigit)) h
  exact startsWord_of_isDigit hdigit

theorem startsWord_of_comparison {text rest : List Char} {sign : Comparison}
    (h : comparison text = .done sign rest) : startsWord text = true := by
  have hsign : ∀ {start : List Char} {sign' : Comparison}, startsWord start = true →
      (do exactly start; return sign' : Reader Comparison) text = .done sign rest →
      startsWord text = true := by
    intro start sign' hstarts hread
    obtain ⟨⟨⟩, behind, hread, -⟩ := bind_eq_done_iff.1 hread
    rw [exactly_eq_done_iff.1 hread]
    exact startsWord_append hstarts behind
  obtain hread | ⟨-, h⟩ := orElse_eq_done_iff.1 h
  · exact hsign rfl hread
  obtain hread | ⟨-, h⟩ := orElse_eq_done_iff.1 h
  · exact hsign rfl hread
  obtain hread | ⟨-, h⟩ := orElse_eq_done_iff.1 h
  · exact hsign rfl hread
  obtain hread | ⟨-, hread⟩ := orElse_eq_done_iff.1 h
  · exact hsign rfl hread
  · exact hsign rfl hread

theorem startsWord_of_span {text rest : List Char} {span : DateSpan}
    (h : (comparedDate <|> dateInterval) text = .done span rest) : startsWord text = true := by
  obtain hcompared | ⟨-, hinterval⟩ := orElse_eq_done_iff.1 h
  · obtain ⟨sign, behind, hsign, -⟩ := bind_eq_done_iff.1 hcompared
    exact startsWord_of_comparison hsign
  · obtain ⟨first, behind, hfirst, -⟩ := bind_eq_done_iff.1 hinterval
    exact startsWord_of_dateLiteral hfirst

/-! ## Places of constructs -/

/-- A construct starts with a character of its own, somewhere in a text. -/
structure Located.StandsIn (located : Located) (text : List Char) : Prop where
  suffix : located.after <:+ text
  starts : startsWord located.after = true

theorem Located.StandsIn.trans {located : Located} {text whole : List Char}
    (h : located.StandsIn text) (hsuffix : text <:+ whole) : located.StandsIn whole :=
  ⟨h.suffix.trans hsuffix, h.starts⟩

/-- Constructs start in a text, and another text is left of it behind them. -/
structure Within (text rest : List Char) (located : List Located) : Prop where
  suffix : rest <:+ text
  stands : ∀ l ∈ located, l.StandsIn text

namespace Within

variable {text behind rest : List Char} {located more : List Located}

theorem nil (h : rest <:+ text) : Within text rest [] := ⟨h, fun _ hl => nomatch hl⟩

theorem append (h : Within text behind located) (hmore : Within behind rest more) :
    Within text rest (located ++ more) where
  suffix := hmore.suffix.trans h.suffix
  stands := List.forall_mem_append.2
    ⟨h.stands, fun l hl => (hmore.stands l hl).trans h.suffix⟩

theorem cons {construct : Construct} (hstarts : startsWord text = true)
    (h : Within text rest located) : Within text rest (⟨construct, text⟩ :: located) where
  suffix := h.suffix
  stands := List.forall_mem_cons.2 ⟨⟨List.suffix_rfl, hstarts⟩, h.stands⟩

/-- What is skipped in front changes nothing. -/
theorem mono {whole : List Char} (h : Within text rest located) (hsuffix : text <:+ whole) :
    Within whole rest located where
  suffix := h.suffix.trans hsuffix
  stands := fun l hl => (h.stands l hl).trans hsuffix

/-- A part of the text may be left behind the constructs. -/
theorem leave (h : Within text behind located) (hsuffix : rest <:+ behind) :
    Within text rest located := ⟨hsuffix.trans h.suffix, h.stands⟩

end Within

theorem suffix_of_behindSpace {text inner : List Char} {c : Char}
    (h : behindSpace text = c :: inner) : inner <:+ text :=
  (List.suffix_cons c inner).trans (h ▸ skipSpace_suffix false text)

theorem OptionAt.within {option : OptionTree} {text rest : List Char}
    (h : OptionAt option text rest) : rest <:+ text ∧ startsWord text = true := by
  cases h with
  | word hkey _ => exact ⟨leaves_bareWord _ _ _ hkey, startsWord_of_bareWord hkey⟩
  | valued hkey hequals hread _ =>
    refine ⟨?_, startsWord_of_bareWord hkey⟩
    exact (leaves_string _ _ _ hread).trans <| (skipSpace_suffix false _).trans <|
      (suffix_of_behindSpace hequals).trans (leaves_bareWord _ _ _ hkey)

theorem OptionsAt.within {owner : ConditionTree} {earlier options : List OptionTree}
    {text rest : List Char} {located : List Located}
    (h : OptionsAt owner earlier options text rest located) : Within text rest located := by
  induction h with
  | last hoption =>
    obtain ⟨hsuffix, hstarts⟩ := hoption.within
    exact ((Within.nil hsuffix).cons hstarts).mono (skipSpace_suffix false _)
  | cons hoption hcomma _ ih =>
    obtain ⟨hsuffix, hstarts⟩ := hoption.within
    exact ((ih.mono ((suffix_of_behindSpace hcomma).trans hsuffix)).cons hstarts).mono
      (skipSpace_suffix false _)

theorem MaybeOptionsAt.within {owner : ConditionTree} {options : List OptionTree}
    {text rest : List Char} {located : List Located}
    (h : MaybeOptionsAt owner options text rest located) : Within text rest located := by
  cases h with
  | none => exact .nil List.suffix_rfl
  | some hopen hoptions hclose =>
    exact (hoptions.within.leave (suffix_of_behindSpace hclose)).mono (suffix_of_behindSpace hopen)

-- The recursion is on the derivations: each part starts in what its production leaves.
mutual

theorem ConditionAt.within {tree : ConditionTree} {text rest : List Char}
    {located : List Located} (h : ConditionAt tree text rest located) :
    Within text rest located := by
  cases h with
  | all hword hopen hmembers hclose | any hword hopen hmembers hclose =>
    exact (hmembers.within.leave (suffix_of_behindSpace hclose)).mono
      ((suffix_of_behindSpace hopen).trans (leaves_keyword _ _ _ _ hword))
  | negation hword hopen htree hclose =>
    exact (htree.within.leave (suffix_of_behindSpace hclose)).mono <|
      (skipSpace_suffix false _).trans <|
        (suffix_of_behindSpace hopen).trans (leaves_keyword _ _ _ _ hword)
  | regex hword hpattern hoptions =>
    have hstarts : startsWord text = true := by rw [hword]; rfl
    refine (hoptions.within.mono ?_).cons hstarts
    rw [hword]
    exact ((leaves_quoted.orElse leaves_bareRegex) _ _ _ hpattern).trans (List.suffix_append _ _)
  | glob hname hoptions =>
    exact (hoptions.within.mono (leaves_string _ _ _ hname)).cons (startsWord_of_string hname)
  | date hspan hoptions =>
    exact (hoptions.within.mono (leaves_span _ _ _ hspan)).cons (startsWord_of_span hspan)

theorem ConditionsAt.within {trees : List ConditionTree} {text rest : List Char}
    {located : List Located} (h : ConditionsAt trees text rest located) :
    Within text rest located := by
  cases h with
  | last htree => exact htree.within.mono (skipSpace_suffix false _)
  | cons htree hcomma htrees =>
    exact ((htree.within.leave (suffix_of_behindSpace hcomma)).mono
      (skipSpace_suffix false _)).append htrees.within

end

theorem ClauseAt.within {clause : ClauseTree} {text rest : List Char}
    (h : ClauseAt clause text rest) : rest <:+ text ∧ startsWord text = true := by
  obtain ⟨behind, inner, hword, hcolon, hclips⟩ := h.clips
  refine ⟨?_, startsWord_of_bareWord (bareWord_of_keyword hword)⟩
  exact (leaves_clipList _ _ _ hclips).trans <|
    (suffix_of_behindSpace hcolon).trans (leaves_keyword _ _ _ _ hword)

theorem BehindComma.suffix {text next : List Char} (h : BehindComma text next) :
    next <:+ text := by
  cases h with
  | comma hcomma => exact suffix_of_behindSpace hcomma
  | none _ => exact skipSpace_suffix false text

theorem ClausesAt.within {clauses : List ClauseTree} {text rest : List Char}
    {located : List Located} (h : ClausesAt clauses text rest located) :
    Within text rest located := by
  cases h with
  | one hclause =>
    obtain ⟨hsuffix, hstarts⟩ := hclause.within
    exact ((Within.nil hsuffix).cons hstarts).mono (skipSpace_suffix false _)
  | two hfirst hcomma hsecond =>
    obtain ⟨hsuffix, hstarts⟩ := hfirst.within
    obtain ⟨hsuffix', hstarts'⟩ := hsecond.within
    exact (((((Within.nil hsuffix').cons hstarts').mono (skipSpace_suffix false _)).mono
      (hcomma.suffix.trans hsuffix)).cons hstarts).mono (skipSpace_suffix false _)

mutual

theorem RuleAt.within {rule : RuleTree} {text rest : List Char} {located : List Located} :
    RuleAt rule text rest located → Within text rest located
  | .plain hbody => hbody.within.mono (skipSpace_suffix false _)
  | .guarded hguard hcolon hbody =>
    ((hguard.within.leave (suffix_of_behindSpace hcolon)).mono
      (skipSpace_suffix false _)).append (hbody.within.mono (skipSpace_suffix false _))

theorem BodyAt.within {guard : Option ConditionTree} {rule : RuleTree} {text rest : List Char}
    {located : List Located} : BodyAt guard rule text rest located → Within text rest located
  | .default hword => .nil (leaves_keyword _ _ _ _ hword)
  | .clips hclauses => hclauses.within
  | .empty hopen hclose => by
    rw [hopen]
    exact .nil ((suffix_of_behindSpace hclose).trans (List.suffix_cons _ _))
  | .list hopen hrules hclose => by
    have hwithin := hrules.within
    rw [hopen]
    exact (hwithin.leave (suffix_of_behindSpace hclose)).mono (List.suffix_cons _ _)

theorem RulesAt.within {rules : List RuleTree} {text rest : List Char} {located : List Located} :
    RulesAt rules text rest located → Within text rest located
  | .last hrule => hrule.within
  | .cons hrule hcomma hrules => (hrule.within.leave hcomma.suffix).append hrules.within

end

/-! ## One place for each construct -/

section

variable {text behind rest rest' : List Char} {located located' : List Located}

theorem eq_of_done {α : Type} {reader : Reader α} {value value' : α}
    (h : reader text = .done value rest) (h' : reader text = .done value' rest') :
    value = value' ∧ rest = rest' := Reply.done.inj (h.symm.trans h')

theorem eq_of_behindSpace {c : Char} (h : behindSpace text = c :: rest)
    (h' : behindSpace text = c :: rest') : rest = rest' := (List.cons.inj (h.symm.trans h')).2

theorem OptionAt.unique {option : OptionTree} (h : OptionAt option text rest)
    (h' : OptionAt option text rest') : rest = rest' := by
  cases h with
  | word hkey hvalue =>
    cases h' with
    | word hkey' _ => exact (eq_of_done hkey hkey').2
    | valued _ _ _ hvalue' => cases hvalue.symm.trans hvalue'
  | valued hkey hequals hread hvalue =>
    cases h' with
    | word _ hvalue' => cases hvalue.symm.trans hvalue'
    | valued hkey' hequals' hread' _ =>
      obtain ⟨-, rfl⟩ := eq_of_done hkey hkey'
      obtain rfl := eq_of_behindSpace hequals hequals'
      exact (eq_of_done hread hread').2

theorem OptionsAt.unique {owner : ConditionTree} {earlier options : List OptionTree}
    (h : OptionsAt owner earlier options text rest located)
    (h' : OptionsAt owner earlier options text rest' located') :
    rest = rest' ∧ located = located' := by
  induction h generalizing rest' located' with
  | last hoption =>
    cases h' with
    | last hoption' => exact ⟨hoption.unique hoption', rfl⟩
    | cons _ _ hoptions' => cases hoptions'
  | cons hoption hcomma hoptions ih =>
    cases h' with
    | last _ => cases hoptions
    | cons hoption' hcomma' hoptions' =>
      obtain rfl := hoption.unique hoption'
      obtain rfl := eq_of_behindSpace hcomma hcomma'
      obtain ⟨rfl, rfl⟩ := ih hoptions'
      exact ⟨rfl, rfl⟩

theorem MaybeOptionsAt.unique {owner : ConditionTree} {options : List OptionTree}
    (h : MaybeOptionsAt owner options text rest located)
    (h' : MaybeOptionsAt owner options text rest' located') :
    rest = rest' ∧ located = located' := by
  cases h with
  | none =>
    cases h' with
    | none => exact ⟨rfl, rfl⟩
    | some _ hoptions' _ => cases hoptions'
  | some hopen hoptions hclose =>
    cases h' with
    | none => cases hoptions
    | some hopen' hoptions' hclose' =>
      obtain rfl := eq_of_behindSpace hopen hopen'
      obtain ⟨rfl, rfl⟩ := hoptions.unique hoptions'
      exact ⟨eq_of_behindSpace hclose hclose', rfl⟩

-- Two derivations for the same tree end in the same production, and each part of it leaves the same
-- text for the next one.
mutual

theorem ConditionAt.unique {tree : ConditionTree} {text rest rest' : List Char}
    {located located' : List Located} :
    ConditionAt tree text rest located → ConditionAt tree text rest' located' →
      rest = rest' ∧ located = located'
  | .all hword hopen hmembers hclose, .all hword' hopen' hmembers' hclose' => by
    obtain ⟨-, rfl⟩ := eq_of_done hword hword'
    obtain rfl := eq_of_behindSpace hopen hopen'
    obtain ⟨rfl, rfl⟩ := hmembers.unique hmembers'
    exact ⟨eq_of_behindSpace hclose hclose', rfl⟩
  | .any hword hopen hmembers hclose, .any hword' hopen' hmembers' hclose' => by
    obtain ⟨-, rfl⟩ := eq_of_done hword hword'
    obtain rfl := eq_of_behindSpace hopen hopen'
    obtain ⟨rfl, rfl⟩ := hmembers.unique hmembers'
    exact ⟨eq_of_behindSpace hclose hclose', rfl⟩
  | .negation hword hopen htree hclose, .negation hword' hopen' htree' hclose' => by
    obtain ⟨-, rfl⟩ := eq_of_done hword hword'
    obtain rfl := eq_of_behindSpace hopen hopen'
    obtain ⟨rfl, rfl⟩ := htree.unique htree'
    exact ⟨eq_of_behindSpace hclose hclose', rfl⟩
  | .regex hword hpattern hoptions, .regex hword' hpattern' hoptions' => by
    obtain rfl := List.append_cancel_left (hword.symm.trans hword')
    obtain ⟨-, rfl⟩ := eq_of_done hpattern hpattern'
    obtain ⟨rfl, rfl⟩ := hoptions.unique hoptions'
    exact ⟨rfl, rfl⟩
  | .glob hname hoptions, .glob hname' hoptions' => by
    obtain ⟨-, rfl⟩ := eq_of_done hname hname'
    obtain ⟨rfl, rfl⟩ := hoptions.unique hoptions'
    exact ⟨rfl, rfl⟩
  | .date hspan hoptions, .date hspan' hoptions' => by
    obtain ⟨-, rfl⟩ := eq_of_done hspan hspan'
    obtain ⟨rfl, rfl⟩ := hoptions.unique hoptions'
    exact ⟨rfl, rfl⟩

theorem ConditionsAt.unique {trees : List ConditionTree} {text rest rest' : List Char}
    {located located' : List Located} :
    ConditionsAt trees text rest located → ConditionsAt trees text rest' located' →
      rest = rest' ∧ located = located'
  | .last htree, .last htree' => htree.unique htree'
  | .last _, .cons _ _ htrees' => nomatch htrees'
  | .cons _ _ htrees, .last _ => nomatch htrees
  | .cons htree hcomma htrees, .cons htree' hcomma' htrees' => by
    obtain ⟨rfl, rfl⟩ := htree.unique htree'
    obtain rfl := eq_of_behindSpace hcomma hcomma'
    obtain ⟨rfl, rfl⟩ := htrees.unique htrees'
    exact ⟨rfl, rfl⟩

end

theorem ClauseAt.unique {clause : ClauseTree} (h : ClauseAt clause text rest)
    (h' : ClauseAt clause text rest') : rest = rest' := by
  obtain ⟨behind, inner, hword, hcolon, hclips⟩ := h.clips
  obtain ⟨behind', inner', hword', hcolon', hclips'⟩ := h'.clips
  obtain ⟨-, rfl⟩ := eq_of_done hword hword'
  obtain rfl := eq_of_behindSpace hcolon hcolon'
  exact (eq_of_done hclips hclips').2

theorem BehindComma.unique (h : BehindComma text rest) (h' : BehindComma text rest') :
    rest = rest' := by
  cases h with
  | comma hcomma =>
    cases h' with
    | comma hcomma' => exact eq_of_behindSpace hcomma hcomma'
    | none hnone' => exact absurd hcomma (hnone' _)
  | none hnone =>
    cases h' with
    | comma hcomma' => exact absurd hcomma' (hnone _)
    | none _ => rfl

theorem ClausesAt.unique {clauses : List ClauseTree} (h : ClausesAt clauses text rest located)
    (h' : ClausesAt clauses text rest' located') : rest = rest' ∧ located = located' := by
  cases h with
  | one hclause =>
    cases h' with
    | one hclause' => exact ⟨hclause.unique hclause', rfl⟩
  | two hfirst hcomma hsecond =>
    cases h' with
    | two hfirst' hcomma' hsecond' =>
      obtain rfl := hfirst.unique hfirst'
      obtain rfl := hcomma.unique hcomma'
      exact ⟨hsecond.unique hsecond', rfl⟩

/-- The condition of a rule. -/
def RuleTree.guard : RuleTree → Option ConditionTree
  | .default guard => guard
  | .clips guard _ => guard
  | .list guard _ => guard

theorem BodyAt.guard_eq {guard : Option ConditionTree} {rule : RuleTree}
    (h : BodyAt guard rule text rest located) : rule.guard = guard := by cases h <;> rfl

mutual

theorem RuleAt.unique {rule : RuleTree} {text rest rest' : List Char}
    {located located' : List Located} :
    RuleAt rule text rest located → RuleAt rule text rest' located' →
      rest = rest' ∧ located = located'
  | .plain hbody, .plain hbody' => hbody.unique hbody'
  -- a rule tells whether a condition stands in front
  | .plain hbody, .guarded _ _ hbody' => nomatch hbody.guard_eq.symm.trans hbody'.guard_eq
  | .guarded _ _ hbody, .plain hbody' => nomatch hbody.guard_eq.symm.trans hbody'.guard_eq
  | .guarded hguard hcolon hbody, .guarded hguard' hcolon' hbody' => by
    cases hbody.guard_eq.symm.trans hbody'.guard_eq
    obtain ⟨rfl, rfl⟩ := hguard.unique hguard'
    obtain rfl := eq_of_behindSpace hcolon hcolon'
    obtain ⟨rfl, rfl⟩ := hbody.unique hbody'
    exact ⟨rfl, rfl⟩

theorem BodyAt.unique {guard : Option ConditionTree} {rule : RuleTree}
    {text rest rest' : List Char} {located located' : List Located} :
    BodyAt guard rule text rest located → BodyAt guard rule text rest' located' →
      rest = rest' ∧ located = located'
  | .default hword, .default hword' => ⟨(eq_of_done hword hword').2, rfl⟩
  | .clips hclauses, .clips hclauses' => hclauses.unique hclauses'
  | .empty hopen hclose, .empty hopen' hclose' => by
    obtain ⟨-, rfl⟩ := List.cons.inj (hopen.symm.trans hopen')
    exact ⟨eq_of_behindSpace hclose hclose', rfl⟩
  | .empty _ _, .list _ hrules' _ => nomatch hrules'
  | .list _ hrules _, .empty _ _ => nomatch hrules
  | .list hopen hrules hclose, .list hopen' hrules' hclose' => by
    obtain ⟨-, rfl⟩ := List.cons.inj (hopen.symm.trans hopen')
    obtain ⟨rfl, rfl⟩ := hrules.unique hrules'
    exact ⟨eq_of_behindSpace hclose hclose', rfl⟩

theorem RulesAt.unique {rules : List RuleTree} {text rest rest' : List Char}
    {located located' : List Located} :
    RulesAt rules text rest located → RulesAt rules text rest' located' →
      rest = rest' ∧ located = located'
  | .last hrule, .last hrule' => hrule.unique hrule'
  | .last _, .cons _ _ hrules' => nomatch hrules'
  | .cons _ _ hrules, .last _ => nomatch hrules
  | .cons hrule hcomma hrules, .cons hrule' hcomma' hrules' => by
    obtain ⟨rfl, rfl⟩ := hrule.unique hrule'
    obtain rfl := hcomma.unique hcomma'
    obtain ⟨rfl, rfl⟩ := hrules.unique hrules'
    exact ⟨rfl, rfl⟩

end

end

/-- The trees and the text leave no choice about the places. -/
theorem TextAt.unique {trees : List RuleTree} {text : List Char} {located located' : List Located}
    (h : TextAt trees text located) (h' : TextAt trees text located') : located = located' := by
  obtain ⟨rest, hrules, -⟩ := h
  obtain ⟨rest', hrules', -⟩ := h'
  exact (hrules.unique hrules').2

end ClipSplice.RuleText

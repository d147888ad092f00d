import ClipSplice.Proofs.FirstFrames

/-!
# The search for the first frame

The first frame of some bytes is looked for by going from sync byte to sync byte, and on behind each
header that nothing confirms. This finds what a look at every single position finds: the least
position of a header, `findSync?_eq_some_iff`, and of a confirmed one,
`firstFrameFrom?_eq_some_iff`.
-/

namespace ClipSplice

/-! ## Headers at positions -/

/-- A valid header starts at a position. -/
def HeaderAt (bytes : Bytes) (position : Nat) (header : FrameHeader) : Prop :=
  FrameHeader.ofBytes? (bytes.drop position) = some header

/-- A valid header starts at a position and is confirmed: its frame reaches to the end of the bytes
or past it, or an ID3v1 tag or another valid header starts behind the frame. -/
structure ConfirmedAt (bytes : Bytes) (position : Nat) (header : FrameHeader) : Prop where
  starts : HeaderAt bytes position header
  behind : bytes.length ≤ position + header.frameLength ∨
    Id3v1.marker <+: bytes.drop (position + header.frameLength) ∨
    ∃ next, HeaderAt bytes (position + header.frameLength) next

/-- The positions at which valid headers start. -/
def headerPositions (bytes : Bytes) : Set Nat :=
  {position | ∃ header, HeaderAt bytes position header}

/-- The positions at which confirmed headers start. -/
def confirmedPositions (bytes : Bytes) : Set Nat :=
  {position | ∃ header, ConfirmedAt bytes position header}

theorem confirmedAt_iff {bytes : Bytes} {position : Nat} {header : FrameHeader} :
    ConfirmedAt bytes position header ↔
      (FrameHeader.ofBytes? (bytes.drop position)).filter (confirmed · (bytes.drop position)) =
        some header := by
  have hbehind : confirmed header (bytes.drop position) = true ↔
      bytes.length ≤ position + header.frameLength ∨
        Id3v1.marker <+: bytes.drop (position + header.frameLength) ∨
        ∃ next, HeaderAt bytes (position + header.frameLength) next := by
    rw [confirmed_iff, List.drop_drop, ConfirmsFrame, List.drop_eq_nil_iff,
      Option.isSome_iff_exists]
    rfl
  rw [Option.filter_eq_some_iff, hbehind]
  exact ⟨fun h => ⟨h.starts, h.behind⟩, fun h => ⟨h.1, h.2⟩⟩

theorem confirmedPositions_subset (bytes : Bytes) :
    confirmedPositions bytes ⊆ headerPositions bytes :=
  fun _ ⟨header, h⟩ => ⟨header, h.starts⟩

/-! ## Going from header to header -/

theorem zero_mem_headerPositions {b : UInt8} {rest : Bytes} :
    0 ∈ headerPositions (b :: rest) ↔
      (b = syncByte && (FrameHeader.ofBytes? (b :: rest)).isSome) = true := by
  rw [Bool.and_eq_true, decide_eq_true_eq, Option.isSome_iff_exists]
  constructor
  · rintro ⟨header, h⟩
    exact ⟨Option.some.inj (FrameHeader.head?_of_ofBytes? h), header, h⟩
  · rintro ⟨-, header, h⟩
    exact ⟨header, h⟩

theorem succ_mem_headerPositions {b : UInt8} {rest : Bytes} {position : Nat} :
    position + 1 ∈ headerPositions (b :: rest) ↔ position ∈ headerPositions rest := Iff.rfl

theorem mem_headerPositions_drop {bytes : Bytes} {start position : Nat} :
    position ∈ headerPositions (bytes.drop start) ↔ start + position ∈ headerPositions bytes := by
  simp only [headerPositions, HeaderAt, Set.mem_ofPred_eq, List.drop_drop]

/-- Only the sync bytes are looked at, and no header starts elsewhere. -/
theorem firstHeader?_cases (bytes : Bytes) :
    (∃ position, firstHeader? bytes = some position ∧ IsLeast (headerPositions bytes) position) ∨
      firstHeader? bytes = none ∧ headerPositions bytes = ∅ := by
  induction bytes with
  | nil =>
    refine .inr ⟨rfl, Set.eq_empty_of_forall_notMem ?_⟩
    rintro position ⟨header, h⟩
    rw [HeaderAt, List.drop_nil] at h
    cases h
  | cons b rest ih =>
    rw [firstHeader?]
    split
    · rename_i hb
      exact .inl ⟨0, rfl, zero_mem_headerPositions.2 hb, fun _ _ => Nat.zero_le _⟩
    · rename_i hb
      have hzero : 0 ∉ headerPositions (b :: rest) := fun h => hb (zero_mem_headerPositions.1 h)
      rcases ih with ⟨position, hfirst, hmem, hleast⟩ | ⟨hfirst, hempty⟩
      · refine .inl ⟨position + 1, by rw [hfirst]; rfl, succ_mem_headerPositions.2 hmem,
          fun other hother => ?_⟩
        cases other with
        | zero => exact absurd hother hzero
        | succ other => exact Nat.succ_le_succ (hleast (succ_mem_headerPositions.1 hother))
      · refine .inr ⟨by rw [hfirst]; rfl, Set.eq_empty_of_forall_notMem fun other hother => ?_⟩
        cases other with
        | zero => exact hzero hother
        | succ other =>
          rw [succ_mem_headerPositions, hempty] at hother
          exact hother

theorem lt_length_of_mem_headerPositions {bytes : Bytes} {position : Nat}
    (h : position ∈ headerPositions bytes) : position < bytes.length := by
  obtain ⟨header, h⟩ := h
  have hsize := FrameHeader.size_le_of_ofBytes? h
  rw [List.length_drop, FrameHeader.size] at hsize
  omega

/-- The search for a header finds the least position of one from the start on. -/
theorem findSync?_cases (bytes : Bytes) (start : Nat) :
    (∃ position, findSync? bytes start = some position ∧
      IsLeast {p | start ≤ p ∧ p ∈ headerPositions bytes} position) ∨
      findSync? bytes start = none ∧ ∀ p, start ≤ p → p ∉ headerPositions bytes := by
  rw [findSync?]
  split
  · rcases firstHeader?_cases (bytes.drop start) with ⟨behind, hfirst, hmem, hleast⟩ |
      ⟨hfirst, hempty⟩
    · refine .inl ⟨start + behind, by rw [hfirst]; rfl,
        ⟨Nat.le_add_right _ _, mem_headerPositions_drop.1 hmem⟩, ?_⟩
      rintro p ⟨hstart, hp⟩
      obtain ⟨more, rfl⟩ := Nat.exists_eq_add_of_le hstart
      exact Nat.add_le_add_left (hleast (mem_headerPositions_drop.2 hp)) start
    · refine .inr ⟨by rw [hfirst]; rfl, fun p hstart hp => ?_⟩
      obtain ⟨more, rfl⟩ := Nat.exists_eq_add_of_le hstart
      have hmem := mem_headerPositions_drop.2 hp
      rw [hempty] at hmem
      exact hmem
  · rename_i hend
    refine .inr ⟨rfl, fun p hstart hp => ?_⟩
    have hlt := lt_length_of_mem_headerPositions hp
    omega

theorem findSync?_eq_some_iff {bytes : Bytes} {start position : Nat} :
    findSync? bytes start = some position ↔
      IsLeast {p | start ≤ p ∧ p ∈ headerPositions bytes} position := by
  rcases findSync?_cases bytes start with ⟨position', hsome, hleast⟩ | ⟨hnone, hnever⟩
  · rw [hsome, Option.some.injEq]
    exact ⟨fun h => h ▸ hleast, fun h => hleast.unique h⟩
  · rw [hnone]
    exact iff_of_false nofun fun h => hnever position h.1.1 h.1.2

theorem findSync?_eq_none_iff {bytes : Bytes} {start : Nat} :
    findSync? bytes start = none ↔ ∀ p, start ≤ p → p ∉ headerPositions bytes := by
  rcases findSync?_cases bytes start with ⟨position, hsome, hleast⟩ | ⟨hnone, hnever⟩
  · rw [hsome]
    exact iff_of_false nofun fun h => h position hleast.1.1 hleast.1.2
  · exact iff_of_true hnone hnever

/-! ## Going on behind what nothing confirms -/

/-- The search from `start` on comes to a header that nothing confirms and goes on at `next`. -/
def GoesOn (bytes : Bytes) (start next : Nat) : Prop :=
  ∃ position, findSync? bytes start = some position ∧ next = position + 1 ∧
    position ∉ confirmedPositions bytes

/-- The search does not go on for ever: each round takes it closer to the end of the bytes. -/
theorem wellFounded_goesOn (bytes : Bytes) :
    WellFounded fun next start => GoesOn bytes start next := by
  refine Subrelation.wf (r := InvImage (· < ·) (bytes.length - ·)) ?_
    (InvImage.wf _ wellFounded_lt)
  rintro next start ⟨position, hsync, rfl, -⟩
  have hbounds := findSync?_bounds hsync
  show bytes.length - (position + 1) < bytes.length - start
  omega

/-- The search finds the least position of a confirmed header from the start on, and that header. -/
theorem firstFrameFrom?_cases (bytes : Bytes) (start : Nat) :
    (∃ position header, firstFrameFrom? bytes start = some (position, header) ∧
      ConfirmedAt bytes position header ∧
      IsLeast {p | start ≤ p ∧ p ∈ confirmedPositions bytes} position) ∨
      firstFrameFrom? bytes start = none ∧ ∀ p, start ≤ p → p ∉ confirmedPositions bytes := by
  fun_induction firstFrameFrom? bytes start with
  | case1 start hnone =>
    have hnever := findSync?_eq_none_iff.1 hnone
    exact .inr ⟨rfl, fun p hstart hp => hnever p hstart (confirmedPositions_subset bytes hp)⟩
  | case2 start position hsome frame header hfilter =>
    have hconfirmed : ConfirmedAt bytes position header := confirmedAt_iff.2 hfilter
    obtain ⟨⟨hstart, -⟩, hleast⟩ := findSync?_eq_some_iff.1 hsome
    refine .inl ⟨position, header, rfl, hconfirmed, ⟨hstart, header, hconfirmed⟩, ?_⟩
    exact fun p hp => hleast ⟨hp.1, confirmedPositions_subset bytes hp.2⟩
  | case3 start position hsome frame hnone ih =>
    obtain ⟨⟨hstart, -⟩, hleast⟩ := findSync?_eq_some_iff.1 hsome
    -- the header that was passed over is not confirmed, and no other one stands before it
    have hskip : ∀ p ∈ confirmedPositions bytes, start ≤ p ↔ position + 1 ≤ p := by
      intro p hp
      refine ⟨fun hp' => ?_, fun hp' => by omega⟩
      have hle : position ≤ p := hleast ⟨hp', confirmedPositions_subset bytes hp⟩
      refine Nat.lt_of_le_of_ne hle ?_
      rintro rfl
      obtain ⟨header, hconfirmed⟩ := hp
      cases (confirmedAt_iff.1 hconfirmed).symm.trans hnone
    rcases ih with ⟨position', header, hfound, hconfirmed, ⟨hbehind, hmem⟩, hleast'⟩ |
      ⟨hfound, hnever⟩
    · refine .inl ⟨position', header, hfound, hconfirmed, ⟨(hskip _ hmem).2 hbehind, hmem⟩, ?_⟩
      exact fun p hp => hleast' ⟨(hskip p hp.2).1 hp.1, hp.2⟩
    · exact .inr ⟨hfound, fun p hp hmem => hnever p ((hskip p hmem).1 hp) hmem⟩

theorem ConfirmedAt.header_unique {bytes : Bytes} {position : Nat} {header other : FrameHeader}
    (h : ConfirmedAt bytes position header) (h' : ConfirmedAt bytes position other) :
    header = other := Option.some.inj (h.starts.symm.trans h'.starts)

theorem firstFrameFrom?_eq_some_iff {bytes : Bytes} {start position : Nat} {header : FrameHeader} :
    firstFrameFrom? bytes start = some (position, header) ↔
      ConfirmedAt bytes position header ∧
        IsLeast {p | start ≤ p ∧ p ∈ confirmedPositions bytes} position := by
  rcases firstFrameFrom?_cases bytes start with ⟨position', header', hsome, hconfirmed, hleast⟩ |
    ⟨hnone, hnever⟩
  · rw [hsome, Option.some.injEq, Prod.mk.injEq]
    constructor
    · rintro ⟨rfl, rfl⟩
      exact ⟨hconfirmed, hleast⟩
    · rintro ⟨hconfirmed', hleast'⟩
      obtain rfl := hleast.unique hleast'
      exact ⟨rfl, hconfirmed.header_unique hconfirmed'⟩
  · rw [hnone]
    exact iff_of_false nofun fun h => hnever position h.2.1.1 h.2.1.2

theorem firstFrameFrom?_eq_none_iff {bytes : Bytes} {start : Nat} :
    firstFrameFrom? bytes start = none ↔ ∀ p, start ≤ p → p ∉ confirmedPositions bytes := by
  rcases firstFrameFrom?_cases bytes start with ⟨position, header, hsome, -, hleast⟩ |
    ⟨hnone, hnever⟩
  · rw [hsome]
    exact iff_of_false nofun fun h => h position hleast.1.1 hleast.1.2
  · exact iff_of_true hnone hnever

/-- The search for the first frame gives the least position of a confirmed header, with that header,
and nothing just when there is none. It gets there from one header to the next, of which none is
left out, and cannot go on for ever. -/
theorem firstFrame?_isLeast (bytes : Bytes) :
    (∀ position header, firstFrame? bytes = some (position, header) ↔
      ConfirmedAt bytes position header ∧ IsLeast (confirmedPositions bytes) position) ∧
    (firstFrame? bytes = none ↔ confirmedPositions bytes = ∅) ∧
    (∀ start position, findSync? bytes start = some position ↔
      IsLeast {p | start ≤ p ∧ p ∈ headerPositions bytes} position) ∧
    (∀ start, findSync? bytes start = none ↔ ∀ p, start ≤ p → p ∉ headerPositions bytes) ∧
    WellFounded fun next start => GoesOn bytes start next := by
  have hall : {p | 0 ≤ p ∧ p ∈ confirmedPositions bytes} = confirmedPositions bytes :=
    Set.ext fun p => and_iff_right (Nat.zero_le p)
  refine ⟨fun position header => ?_, ?_, fun _ _ => findSync?_eq_some_iff,
    fun _ => findSync?_eq_none_iff, wellFounded_goesOn bytes⟩
  · rw [firstFrame?, firstFrameFrom?_eq_some_iff, hall]
  · rw [firstFrame?, firstFrameFrom?_eq_none_iff, Set.eq_empty_iff_forall_notMem]
    exact forall_congr' fun p => imp_iff_right (Nat.zero_le p)

end ClipSplice

import ClipSplice.Proofs.LastFrame
import Mathlib

/-!
# Complete frames by their headers

Valid headers cut some bytes into pieces. A frame is complete when it reaches exactly to the next
header, or to the end of the bytes when no header follows. The walk from the end finds the last
complete frame in this sense and nothing else (`alignedEnd?_eq_nextStart`), from whatever position
on the bytes are searched (`alignedEnd?_drop_eq_some_iff`). Cutting the bytes where that frame ends
does not change what is found.
-/

namespace ClipSplice

/-! ## Headers and complete frames -/

/-- The positions where valid headers start. -/
def headerStarts (bytes : Bytes) : Finset Nat :=
  {p ∈ Finset.range bytes.length | (FrameHeader.ofBytes? (bytes.drop p)).isSome}

/-- Where the first header behind a position starts, or the end of the bytes if there is none. -/
def nextStart (bytes : Bytes) (p : Nat) : Nat :=
  ({q ∈ headerStarts bytes | p < q} : Finset Nat).min.untopD bytes.length

/-- Where the frame with the header at a position ends, as the header tells. -/
def frameEnd? (bytes : Bytes) (p : Nat) : Option Nat :=
  (FrameHeader.ofBytes? (bytes.drop p)).map fun header => p + header.frameLength

/-- The positions of the headers whose frames reach exactly to the next header or to the end. -/
def completeStarts (bytes : Bytes) : Finset Nat :=
  {p ∈ headerStarts bytes | frameEnd? bytes p = some (nextStart bytes p)}

section

variable {bytes : Bytes} {p q : Nat}

theorem mem_headerStarts :
    p ∈ headerStarts bytes ↔ (FrameHeader.ofBytes? (bytes.drop p)).isSome := by
  rw [headerStarts, Finset.mem_filter, Finset.mem_range, and_iff_right_iff_imp]
  intro hheader
  by_contra hend
  rw [List.drop_eq_nil_of_le (Nat.le_of_not_lt hend)] at hheader
  cases hheader

theorem notMem_headerStarts :
    p ∉ headerStarts bytes ↔ FrameHeader.ofBytes? (bytes.drop p) = none := by
  rw [mem_headerStarts, Option.not_isSome_iff_eq_none]

theorem lt_length_of_mem_headerStarts (h : p ∈ headerStarts bytes) : p < bytes.length :=
  Finset.mem_range.1 (Finset.mem_filter.1 h).1

theorem nextStart_eq (hlt : p < q) (hstart : q ∈ headerStarts bytes ∨ q = bytes.length)
    (hquiet : Quiet bytes (p + 1) q) : nextStart bytes p = q := by
  have hnone : ∀ r ∈ headerStarts bytes, p < r → q ≤ r := by
    intro r hr hpr
    by_contra hrq
    exact notMem_headerStarts.2 (hquiet r hpr (Nat.lt_of_not_le hrq)) hr
  unfold nextStart
  rcases hstart with hstart | rfl
  · have hmin : ({r ∈ headerStarts bytes | p < r} : Finset Nat).min = q := by
      refine le_antisymm (Finset.min_le (Finset.mem_filter.2 ⟨hstart, hlt⟩)) ?_
      refine Finset.le_min fun r hr => ?_
      rw [Finset.mem_filter] at hr
      exact WithTop.coe_le_coe.2 (hnone r hr.1 hr.2)
    rw [hmin]
    rfl
  · have hempty : ({r ∈ headerStarts bytes | p < r} : Finset Nat) = ∅ := by
      refine Finset.filter_eq_empty_iff.2 fun r hr hpr => ?_
      exact Nat.not_lt_of_le (hnone r hr hpr) (lt_length_of_mem_headerStarts hr)
    rw [hempty]
    rfl

/-- Between a position and the next header nothing starts. -/
theorem nextStart_spec (hlt : p < bytes.length) :
    p < nextStart bytes p ∧
      (nextStart bytes p ∈ headerStarts bytes ∨ nextStart bytes p = bytes.length) ∧
      Quiet bytes (p + 1) (nextStart bytes p) := by
  unfold nextStart
  rcases ({q ∈ headerStarts bytes | p < q} : Finset Nat).eq_empty_or_nonempty with hempty | hsome
  · rw [hempty]
    refine ⟨hlt, .inr rfl, fun q hpq _ => notMem_headerStarts.1 fun hq => ?_⟩
    exact (Finset.filter_eq_empty_iff.1 hempty) hq hpq
  · obtain ⟨q, hq⟩ := Finset.min_of_nonempty hsome
    have hmem := Finset.mem_filter.1 (Finset.mem_of_min hq)
    rw [hq]
    refine ⟨hmem.2, .inl hmem.1, fun r hpr hrq => notMem_headerStarts.1 fun hr => ?_⟩
    have hle := Finset.min_le_of_eq (Finset.mem_filter.2 ⟨hr, hpr⟩) hq
    exact Nat.not_lt_of_le hle hrq

theorem mem_completeStarts :
    p ∈ completeStarts bytes ↔ frameEnd? bytes p = some (nextStart bytes p) := by
  rw [completeStarts, Finset.mem_filter, and_iff_right_iff_imp, mem_headerStarts]
  intro hend
  rw [← Option.isSome_map (f := fun header => p + header.frameLength)]
  exact Option.isSome_of_eq_some hend

/-- A complete frame is long enough for the headers in front of its end to be told without what
stands behind it. -/
theorem add_size_le_nextStart (h : p ∈ completeStarts bytes) :
    p + FrameHeader.size ≤ nextStart bytes p := by
  obtain ⟨header, hheader, hend⟩ := Option.map_eq_some_iff.1 (mem_completeStarts.1 h)
  have hlength := (FrameHeader.listed_of_ofBytes? hheader).frameLength_bounds.1
  rw [← hend, FrameHeader.size]
  omega

end

/-! ## The walk from the end -/

/-- What the walk from the end has found out when it has come to a position. -/
def Ending.Tells (bytes : Bytes) (position : Nat) : Ending → Prop
  | .boundary q =>
    position ≤ q ∧ (q ∈ headerStarts bytes ∨ q = bytes.length) ∧ Quiet bytes position q ∧
      ∀ p ∈ completeStarts bytes, p < position
  | .found e =>
    ∃ p, IsGreatest (completeStarts bytes : Set Nat) p ∧ position ≤ p ∧ e = nextStart bytes p

/-- One step of the walk. -/
theorem Ending.Tells.step {bytes : Bytes} {position : Nat} {ending : Ending}
    (h : ending.Tells bytes (position + 1)) :
    (ending.meet position (FrameHeader.ofBytes? (bytes.drop position))).Tells bytes position := by
  cases ending with
  | found e =>
    obtain ⟨p, hp, hposition, he⟩ := h
    exact ⟨p, hp, by omega, he⟩
  | boundary q =>
    obtain ⟨hle, hstart, hquiet, hbehind⟩ := h
    cases hheader : FrameHeader.ofBytes? (bytes.drop position) with
    | none =>
      refine ⟨by omega, hstart, fun p hp hpq => ?_, fun p hp => ?_⟩
      · rcases Nat.eq_or_lt_of_le hp with rfl | hp
        · exact hheader
        · exact hquiet p hp hpq
      · refine Nat.lt_of_le_of_ne (Nat.le_of_lt_succ (hbehind p hp)) ?_
        rintro rfl
        exact notMem_headerStarts.2 hheader (Finset.mem_filter.1 hp).1
    | some header =>
      -- the boundary is where the next header starts
      have hnext : nextStart bytes position = q := nextStart_eq hle hstart hquiet
      have hend : frameEnd? bytes position = some (position + header.frameLength) := by
        rw [frameEnd?, hheader, Option.map_some]
      by_cases hreaches : position + header.frameLength = q
      · have hcomplete : position ∈ completeStarts bytes := by
          rw [mem_completeStarts, hend, hnext, hreaches]
        rw [Ending.meet, if_pos hreaches]
        exact ⟨position, ⟨hcomplete, fun p hp => Nat.le_of_lt_succ (hbehind p hp)⟩,
          Nat.le_refl _, hnext.symm⟩
      · have hheaderStart : position ∈ headerStarts bytes := by
          rw [mem_headerStarts, hheader]
          rfl
        rw [Ending.meet, if_neg hreaches]
        refine ⟨Nat.le_refl _, .inl hheaderStart, fun p hp hpq => absurd hp (by omega),
          fun p hp => Nat.lt_of_le_of_ne (Nat.le_of_lt_succ (hbehind p hp)) ?_⟩
        rintro rfl
        rw [mem_completeStarts, hend, hnext] at hp
        exact hreaches (Option.some.inj hp)

theorem endingFrom_tells (bytes : Bytes) {position : Nat} (h : position ≤ bytes.length) :
    (endingFrom position (bytes.drop position)).Tells bytes position := by
  induction h using Nat.decreasingInduction with
  | self =>
    rw [List.drop_length]
    refine ⟨Nat.le_refl _, .inr rfl, fun p hp hpq => absurd hp (by omega), fun p hp => ?_⟩
    exact lt_length_of_mem_headerStarts (Finset.mem_filter.1 hp).1
  | of_succ position hposition ih =>
    have hcons := List.drop_eq_getElem_cons hposition
    have hstep := ih.step
    rwa [hcons, ← endingFrom, ← hcons] at hstep

/-- A position counted from `n` on. -/
def Ending.shift (n : Nat) : Ending → Ending
  | .boundary position => .boundary (n + position)
  | .found position => .found (n + position)

theorem endingFrom_add (n position : Nat) (bytes : Bytes) :
    endingFrom (n + position) bytes = (endingFrom position bytes).shift n := by
  induction bytes generalizing position with
  | nil => rfl
  | cons b rest ih =>
    rw [endingFrom, endingFrom, Nat.add_assoc, ih (position + 1)]
    cases endingFrom (position + 1) rest with
    | found e => rfl
    | boundary e =>
      cases FrameHeader.ofBytes? (b :: rest) with
      | none => rfl
      | some header =>
        simp only [Ending.shift, Ending.meet, Nat.add_assoc, Nat.add_left_cancel_iff]
        split <;> rfl

/-! ## The end that is found -/

/-- From a position on, the last complete frame of some bytes is found if it starts there. -/
theorem alignedEnd?_drop_eq_some_iff (bytes : Bytes) (start e : Nat) :
    alignedEnd? (bytes.drop start) = some e ↔
      ∃ p, IsGreatest (completeStarts bytes : Set Nat) p ∧ start ≤ p ∧
        start + e = nextStart bytes p := by
  by_cases hstart : start ≤ bytes.length
  · have htells := endingFrom_tells bytes hstart
    have hwalk := endingFrom_add start 0 (bytes.drop start)
    rw [Nat.add_zero] at hwalk
    rw [hwalk] at htells
    unfold alignedEnd?
    cases hending : endingFrom 0 (bytes.drop start) with
    | boundary q =>
      rw [hending] at htells
      refine iff_of_false nofun ?_
      rintro ⟨p, hp, hle, -⟩
      exact Nat.not_lt_of_le hle (htells.2.2.2 p hp.1)
    | found k =>
      rw [hending] at htells
      obtain ⟨p, hp, hle, hk⟩ := htells
      constructor
      · rintro ⟨⟩
        exact ⟨p, hp, hle, hk⟩
      · rintro ⟨p', hp', -, he⟩
        rw [hp'.unique hp, ← hk] at he
        rw [Nat.add_left_cancel he]
  · rw [List.drop_eq_nil_of_le (Nat.le_of_not_le hstart)]
    refine iff_of_false nofun ?_
    rintro ⟨p, hp, hle, -⟩
    have hlt := lt_length_of_mem_headerStarts (Finset.mem_filter.1 hp.1).1
    omega

theorem alignedEnd?_eq_some_iff {bytes : Bytes} {e : Nat} :
    alignedEnd? bytes = some e ↔
      ∃ p, IsGreatest (completeStarts bytes : Set Nat) p ∧ e = nextStart bytes p := by
  have hdrop := alignedEnd?_drop_eq_some_iff bytes 0 e
  rw [List.drop_zero, Nat.zero_add] at hdrop
  exact hdrop.trans ⟨fun ⟨p, hp, _, he⟩ => ⟨p, hp, he⟩, fun ⟨p, hp, he⟩ => ⟨p, hp, p.zero_le, he⟩⟩

theorem alignedEnd?_eq_none_iff {bytes : Bytes} :
    alignedEnd? bytes = none ↔ completeStarts bytes = ∅ := by
  rw [Option.eq_none_iff_forall_ne_some, ← Finset.not_nonempty_iff_eq_empty]
  constructor
  · intro hnone hsome
    exact hnone _ (alignedEnd?_eq_some_iff.2 ⟨_, Finset.isGreatest_max' _ hsome, rfl⟩)
  · intro hempty e he
    obtain ⟨p, hp, -⟩ := alignedEnd?_eq_some_iff.1 he
    exact hempty ⟨p, hp.1⟩

/-! ## Cutting the bytes where a complete frame ends -/

/-- A header is seen in the first bytes if it is not cut off. -/
theorem mem_headerStarts_take {bytes : Bytes} {n q : Nat} :
    q ∈ headerStarts (bytes.take n) ↔ q + FrameHeader.size ≤ n ∧ q ∈ headerStarts bytes := by
  rw [mem_headerStarts, mem_headerStarts, List.drop_take]
  by_cases hsize : FrameHeader.size ≤ n - q
  · have hwhole : q + FrameHeader.size ≤ n := by
      simp only [FrameHeader.size] at *
      omega
    rw [FrameHeader.ofBytes?_take hsize, and_iff_right hwhole]
  · refine iff_of_false (fun hheader => hsize ?_) fun h => hsize (by omega)
    obtain ⟨header, hheader⟩ := Option.isSome_iff_exists.1 hheader
    exact (FrameHeader.size_le_of_ofBytes? hheader).trans (List.length_take_le _ _)

/-- Of the bytes up to the end of the last complete frame, that frame is the last complete one, and
it ends where they do. Headers that reach over that end are not seen any more, but none of them
starts inside the frame. -/
theorem isGreatest_completeStarts_take {bytes : Bytes} {p : Nat}
    (h : IsGreatest (completeStarts bytes : Set Nat) p) :
    IsGreatest (completeStarts (bytes.take (nextStart bytes p)) : Set Nat) p ∧
      nextStart (bytes.take (nextStart bytes p)) p = nextStart bytes p := by
  have hsize := add_size_le_nextStart h.1
  have hstart := (Finset.mem_filter.1 h.1).1
  obtain ⟨hlt, hend, hquiet⟩ := nextStart_spec (lt_length_of_mem_headerStarts hstart)
  have hframe := mem_completeStarts.1 h.1
  generalize nextStart bytes p = e at *
  have hlength : (bytes.take e).length = e := by
    refine List.length_take_of_le ?_
    rcases hend with hend | rfl
    · exact Nat.le_of_lt (lt_length_of_mem_headerStarts hend)
    · exact Nat.le_refl _
  have hquiet' : ∀ q ∈ headerStarts (bytes.take e), q ≤ p := by
    intro q hq
    obtain ⟨hqe, hq⟩ := mem_headerStarts_take.1 hq
    simp only [FrameHeader.size] at hqe
    by_contra hpq
    exact notMem_headerStarts.2 (hquiet q (by omega) (by omega)) hq
  have hnext : nextStart (bytes.take e) p = e :=
    nextStart_eq hlt (.inr hlength.symm) fun q hpq _ => notMem_headerStarts.1 fun hq =>
      Nat.not_lt_of_le (hquiet' q hq) hpq
  have hcomplete : p ∈ completeStarts (bytes.take e) := by
    rw [mem_completeStarts, hnext, ← hframe, frameEnd?, frameEnd?, List.drop_take,
      FrameHeader.ofBytes?_take (by omega)]
  exact ⟨⟨hcomplete, fun q hq => hquiet' q (Finset.mem_filter.1 hq).1⟩, hnext⟩

/-- The end that is found is that of the last frame which reaches exactly to the next header or to
the end of the bytes; nothing is found when there is no such frame. When the bytes are cut there,
the same end is found again. -/
theorem alignedEnd?_eq_nextStart (bytes : Bytes) :
    (∀ e, alignedEnd? bytes = some e ↔
      ∃ p, IsGreatest (completeStarts bytes : Set Nat) p ∧ e = nextStart bytes p) ∧
    (alignedEnd? bytes = none ↔ completeStarts bytes = ∅) ∧
    ∀ e, alignedEnd? bytes = some e → alignedEnd? (bytes.take e) = some e := by
  refine ⟨fun e => alignedEnd?_eq_some_iff, alignedEnd?_eq_none_iff, fun e he => ?_⟩
  obtain ⟨p, hp, rfl⟩ := alignedEnd?_eq_some_iff.1 he
  obtain ⟨hp', hnext⟩ := isGreatest_completeStarts_take hp
  exact alignedEnd?_eq_some_iff.2 ⟨p, hp', hnext.symm⟩

/-- A frame of 24 bytes, and another one that is cut off behind its header. -/
theorem alignedEnd?_eq_nextStart_cut :
    let frame : Bytes := [0xff, 0xf3, 0x14, 0xc4] ++ List.replicate 20 0x55
    let bytes := frame ++ frame.take 7
    headerStarts bytes = {0, 24} ∧ completeStarts bytes = {0} ∧ alignedEnd? bytes = some 24 ∧
      alignedEnd? (bytes.take 24) = some 24 := by
  intro frame bytes
  have hfound : alignedEnd? bytes = some 24 := by decide
  exact ⟨by decide, by decide, hfound, (alignedEnd?_eq_nextStart bytes).2.2 24 hfound⟩

end ClipSplice

import ClipSplice.Audio.Cursor
import ClipSplice.Proofs.CompleteFrames

/-!
# The corrected end of a file

The end of the audio of a file is looked for in a window in front of a nominal end. What is found
is the end of the last complete frame in front of the nominal end, as if the whole file had been
searched, if that frame starts in the window (`correctedEnd_of_isGreatest`); else the nominal end
stays (`correctedEnd_of_forall_lt`). Hence a longer window finds the same, and a second search that
starts from the end found comes to no other end (`correctedEnd_correctedEnd`).
-/

namespace ClipSplice

variable {file : Bytes} {nominal window : Nat}

/-! ## One search -/

theorem correctedEnd_of_isGreatest {p : Nat}
    (hp : IsGreatest (completeStarts (file.take nominal) : Set Nat) p)
    (hwindow : nominal - window ≤ p) :
    correctedEnd file nominal window = nextStart (file.take nominal) p := by
  have hbehind := add_size_le_nextStart hp.1
  obtain ⟨e, he⟩ : ∃ e, nominal - window + e = nextStart (file.take nominal) p :=
    ⟨nextStart (file.take nominal) p - (nominal - window), by omega⟩
  have hfound := (alignedEnd?_drop_eq_some_iff _ _ e).2 ⟨p, hp, hwindow, he⟩
  simp only [correctedEnd, ← List.drop_take, hfound]
  exact he

theorem correctedEnd_of_forall_lt
    (h : ∀ p, IsGreatest (completeStarts (file.take nominal) : Set Nat) p → p < nominal - window) :
    correctedEnd file nominal window = nominal := by
  have hnone : alignedEnd? ((file.take nominal).drop (nominal - window)) = none := by
    refine Option.eq_none_iff_forall_ne_some.2 fun e he => ?_
    obtain ⟨p, hp, hwindow, -⟩ := (alignedEnd?_drop_eq_some_iff _ _ e).1 he
    exact Nat.not_lt_of_le hwindow (h p hp)
  simp only [correctedEnd, ← List.drop_take, hnone]

/-- Either the last complete frame in front of the nominal end starts in the window, or the nominal
end stays. -/
theorem correctedEnd_cases (file : Bytes) (nominal window : Nat) :
    (∃ p, IsGreatest (completeStarts (file.take nominal) : Set Nat) p ∧ nominal - window ≤ p ∧
      correctedEnd file nominal window = nextStart (file.take nominal) p) ∨
    correctedEnd file nominal window = nominal := by
  by_cases h : ∀ p, IsGreatest (completeStarts (file.take nominal) : Set Nat) p →
      p < nominal - window
  · exact .inr (correctedEnd_of_forall_lt h)
  · push Not at h
    obtain ⟨p, hp, hwindow⟩ := h
    exact .inl ⟨p, hp, hwindow, correctedEnd_of_isGreatest hp hwindow⟩

theorem sub_le_correctedEnd (file : Bytes) (nominal window : Nat) :
    nominal - window ≤ correctedEnd file nominal window := by
  rcases correctedEnd_cases file nominal window with ⟨p, hp, hwindow, hfound⟩ | hstays
  · have hbehind := add_size_le_nextStart hp.1
    omega
  · omega

/-! ## A second search -/

/-- The window in front of the end found reaches further to the front than the first one, so that
the frame that was found starts in it again. -/
theorem correctedEnd_correctedEnd (file : Bytes) (nominal window : Nat) :
    correctedEnd file (correctedEnd file nominal window) window =
      correctedEnd file nominal window := by
  rcases correctedEnd_cases file nominal window with ⟨p, hp, hwindow, hfound⟩ | hstays
  · have hle := correctedEnd_le file nominal window
    obtain ⟨hagain, hnext⟩ := isGreatest_completeStarts_take hp
    rw [← hfound] at hagain hnext
    rw [List.take_take, Nat.min_eq_left hle] at hagain hnext
    rw [correctedEnd_of_isGreatest hagain (by omega), hnext]
  · rw [hstays, hstays]

/-! ## Looking up the end while reading -/

/-- Looking up the end leaves the place as it was and comes to an end in the window. That is the end
of the last complete frame of all bytes in front of the nominal end when this frame starts in the
window, which no longer window changes, and else the nominal end. From the end found, the same end
is found again. -/
theorem Cursor.findEnd_eq_alignedEnd? (cursor : Cursor) (nominal window : Nat) :
    (cursor.findEnd nominal window).2 = cursor ∧
    nominal - window ≤ (cursor.findEnd nominal window).1 ∧
    (cursor.findEnd nominal window).1 ≤ nominal ∧
    (∀ p, IsGreatest (completeStarts (cursor.file.take nominal) : Set Nat) p →
      nominal - window ≤ p →
        alignedEnd? (cursor.file.take nominal) = some (cursor.findEnd nominal window).1 ∧
        ∀ wider, window ≤ wider →
          (cursor.findEnd nominal wider).1 = (cursor.findEnd nominal window).1) ∧
    ((∀ p, IsGreatest (completeStarts (cursor.file.take nominal) : Set Nat) p →
      p < nominal - window) → (cursor.findEnd nominal window).1 = nominal) ∧
    (cursor.findEnd (cursor.findEnd nominal window).1 window).1 =
      (cursor.findEnd nominal window).1 := by
  simp only [Cursor.findEnd_eq]
  refine ⟨trivial, sub_le_correctedEnd _ _ _, correctedEnd_le _ _ _, fun p hp hwindow => ?_,
    correctedEnd_of_forall_lt, correctedEnd_correctedEnd _ _ _⟩
  have hfound := correctedEnd_of_isGreatest hp hwindow
  refine ⟨alignedEnd?_eq_some_iff.2 ⟨p, hp, hfound⟩, fun wider hwider => ?_⟩
  rw [hfound, correctedEnd_of_isGreatest hp (by omega)]

/-- Two frames of 24 bytes and one that is cut off. A window of 40 bytes starts inside the first
frame and holds the second one; a window of 10 bytes holds no complete frame. -/
theorem Cursor.findEnd_eq_alignedEnd?_two_frames :
    let frame : Bytes := [0xff, 0xf3, 0x14, 0xc4] ++ List.replicate 20 0x55
    let cursor : Cursor := ⟨frame ++ frame ++ frame.take 7, 3⟩
    IsGreatest (completeStarts (cursor.file.take 55) : Set Nat) 24 ∧
      alignedEnd? (cursor.file.take 55) = some (cursor.findEnd 55 40).1 ∧
      (cursor.findEnd 55 50).1 = (cursor.findEnd 55 40).1 ∧
      (cursor.findEnd 55 10).1 = 55 ∧ cursor.findEnd 55 40 = (48, cursor) := by
  intro frame cursor
  have hstarts : completeStarts (cursor.file.take 55) = {0, 24} := by decide +kernel
  have hlast : IsGreatest (completeStarts (cursor.file.take 55) : Set Nat) 24 := by
    rw [hstarts]
    exact ⟨by simp, by simp⟩
  obtain ⟨-, -, -, hwide, -⟩ := Cursor.findEnd_eq_alignedEnd? cursor 55 40
  obtain ⟨-, -, -, -, hnarrow, -⟩ := Cursor.findEnd_eq_alignedEnd? cursor 55 10
  obtain ⟨hfound, hwider⟩ := hwide 24 hlast (by decide)
  refine ⟨hlast, hfound, hwider 50 (by decide), hnarrow fun p hp => ?_, by decide +kernel⟩
  rw [hp.unique hlast]
  decide

end ClipSplice

import ClipSplice.Audio.Header

/-!
# The end of the last complete frame

Audio that was cut off, or that has something appended to it, ends in a piece that is no complete
frame. `alignedEnd?` walks back from the end of some bytes to the last frame that reaches exactly to
where the audio is then known to end; `correctedEnd` does so in the last bytes before a given offset
of a file.
-/

namespace ClipSplice

/-- What the walk from the end has found behind a position. -/
inductive Ending where
  /-- No complete frame yet; the audio, if any, ends at this position. -/
  | boundary (position : Nat)
  /-- A complete frame ends at this position. -/
  | found (position : Nat)
deriving Repr, DecidableEq

/-- Take the header that starts at `position`, if one does, into account: a frame that reaches
exactly to the boundary settles the search, any other header becomes the boundary. -/
def Ending.meet (position : Nat) : Option FrameHeader → Ending → Ending
  | _, .found e => .found e
  | none, .boundary e => .boundary e
  | some header, .boundary e =>
    if position + header.frameLength = e then .found e else .boundary position

/-- The ending of some bytes whose first one stands at `position`. -/
def endingFrom (position : Nat) : Bytes → Ending
  | [] => .boundary position
  | b :: rest =>
    (endingFrom (position + 1) rest).meet position (FrameHeader.ofBytes? (b :: rest))

/-- Where the last complete frame ends, if there is one. -/
def alignedEnd? (window : Bytes) : Option Nat :=
  match endingFrom 0 window with
  | .boundary _ => none
  | .found e => some e

/-- The position that the walk has come to. -/
def Ending.position : Ending → Nat
  | .boundary position => position
  | .found position => position

theorem endingFrom_position_le (position : Nat) (bytes : Bytes) :
    (endingFrom position bytes).position ≤ position + bytes.length := by
  induction bytes generalizing position with
  | nil => simp [endingFrom, Ending.position]
  | cons b rest ih =>
    have behind := ih (position + 1)
    rw [List.length_cons]
    simp only [endingFrom]
    generalize endingFrom (position + 1) rest = e at behind ⊢
    generalize FrameHeader.ofBytes? (b :: rest) = header
    cases e with
    | found e =>
      simp only [Ending.meet, Ending.position] at behind ⊢
      omega
    | boundary e =>
      cases header with
      | none =>
        simp only [Ending.meet, Ending.position] at behind ⊢
        omega
      | some header =>
        unfold Ending.meet
        by_cases reaches : position + header.frameLength = e
        · simp only [reaches, if_true, Ending.position] at behind ⊢
          omega
        · simp only [reaches, if_false, Ending.position] at behind ⊢
          omega

theorem alignedEnd?_le_length {window : Bytes} {e : Nat} (h : alignedEnd? window = some e) :
    e ≤ window.length := by
  have bound := endingFrom_position_le 0 window
  unfold alignedEnd? at h
  split at h
  · exact absurd h (by simp)
  · rename_i position found
    obtain rfl := Option.some.inj h
    rw [found] at bound
    simpa [Ending.position] using bound

/-- How many bytes are looked at past a tag, or back from the end of a file. -/
def syncWindow : Nat := 8192

/-- The offset `nominal` of a file, pulled back to the end of the last complete frame within
`window` bytes before it; unchanged when there is none. -/
def correctedEnd (file : Bytes) (nominal : Nat) (window : Nat) : Nat :=
  let start := nominal - window
  match alignedEnd? ((file.drop start).take (nominal - start)) with
  | some e => start + e
  | none => nominal

theorem correctedEnd_le (file : Bytes) (nominal window : Nat) :
    correctedEnd file nominal window ≤ nominal := by
  simp only [correctedEnd]
  split
  · rename_i e found
    have bound := alignedEnd?_le_length found
    rw [List.length_take] at bound
    omega
  · exact Nat.le_refl nominal

end ClipSplice

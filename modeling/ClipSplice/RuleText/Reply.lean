import ClipSplice.RuleText.Fault

/-!
# Readers with two ways to fail

A reader takes the text that is left. It gives a value with the rest, or fails: a *miss* lets the
caller try something else, a *stop* ends the reading of the whole text. A failure keeps the labels
of what was being read, innermost first, and the text that was left where it failed, from which the
place of the fault is found.
-/

namespace ClipSplice.RuleText

/-- What a reader answers. -/
inductive Reply (α : Type) where
  | done (value : α) (rest : List Char)
  | miss (labels : List Label) (rest : List Char)
  | stop (labels : List Label) (rest : List Char)
deriving Repr

/-- A function that reads the start of a text. -/
def Reader (α : Type) : Type := List Char → Reply α

namespace Reader

variable {α β : Type}

/-- Read nothing. -/
def pure (value : α) : Reader α := fun text => .done value text

/-- Read one thing and then another. -/
def bind (first : Reader α) (next : α → Reader β) : Reader β := fun text =>
  match first text with
  | .done value rest => next value rest
  | .miss labels rest => .miss labels rest
  | .stop labels rest => .stop labels rest

instance : Monad Reader where
  pure := Reader.pure
  bind := Reader.bind

private theorem bind_pure (reader : Reader α) : Reader.bind reader Reader.pure = reader := by
  funext text
  rw [Reader.bind]
  cases reader text <;> rfl

private theorem bind_bind {γ : Type} (first : Reader α) (second : α → Reader β)
    (third : β → Reader γ) :
    Reader.bind (Reader.bind first second) third =
      Reader.bind first fun value => Reader.bind (second value) third := by
  funext text
  simp only [Reader.bind]
  cases first text <;> rfl

instance : LawfulMonad Reader :=
  LawfulMonad.mk' Reader (fun reader => bind_pure reader) (fun _ _ => rfl) bind_bind

/-- Read the same text in another way after a miss. -/
def orElse (first : Reader α) (second : Unit → Reader α) : Reader α := fun text =>
  match first text with
  | .miss _ _ => second () text
  | reply => reply

instance : OrElse (Reader α) := ⟨Reader.orElse⟩

/-- Read something that may be missing. -/
def optional (reader : Reader α) : Reader (Option α) := fun text =>
  match reader text with
  | .done value rest => .done (some value) rest
  | .miss _ _ => .done none text
  | .stop labels rest => .stop labels rest

/-- Allow nothing else: a miss becomes a stop. -/
def must (reader : Reader α) : Reader α := fun text =>
  match reader text with
  | .miss labels rest => .stop labels rest
  | reply => reply

/-- Say what is read, in case it fails. -/
def labelled (label : Label) (reader : Reader α) : Reader α := fun text =>
  match reader text with
  | .done value rest => .done value rest
  | .miss labels rest => .miss (labels ++ [label]) rest
  | .stop labels rest => .stop (labels ++ [label]) rest

/-- Read as often as it goes; `fuel` bounds the number of readings. -/
def manyWithin (reader : Reader α) : (fuel : Nat) → Reader (List α)
  | 0 => pure []
  | fuel + 1 => fun text =>
    match reader text with
    | .done value rest =>
      match manyWithin reader fuel rest with
      | .done values rest => .done (value :: values) rest
      | reply => reply
    | .miss _ _ => .done [] text
    | .stop labels rest => .stop labels rest

/-- Read as often as it goes. A reader that is repeated takes at least one character each time. -/
def many (reader : Reader α) : Reader (List α) := fun text =>
  manyWithin reader text.length text

/-- Read one or more things with separators between them. A separator with nothing behind it is
left unread. -/
def separated (separator : Reader Unit) (reader : Reader α) : Reader (List α) := do
  let first ← reader
  let rest ← many (do separator; reader)
  return first :: rest

/-- Read things with separators between them, perhaps none. -/
def separatedOrNone (separator : Reader Unit) (reader : Reader α) : Reader (List α) := do
  return (← optional (separated separator reader)).getD []

/-! ## Characters -/

/-- Read one character with a property. -/
def charWith (test : Char → Bool) : Reader Char
  | [] => .miss [] []
  | c :: rest => if test c then .done c rest else .miss [] (c :: rest)

/-- Read a certain character. -/
def char (c : Char) : Reader Unit := do let _ ← charWith (· = c)

/-- Read a certain text. -/
def exactly (start : List Char) : Reader Unit := fun text =>
  match Text.after? start text with
  | some rest => .done () rest
  | none => .miss [] text

/-- Read the longest text of characters with a property; it has at least one. -/
def wordOf (test : Char → Bool) : Reader (List Char) := fun text =>
  match text.takeWhile test with
  | [] => .miss [] text
  | word => .done word (text.dropWhile test)

/-- Read a certain number of decimal digits. -/
def digits (count : Nat) : Reader Nat := fun text =>
  let taken := (text.take count).takeWhile Char.isDigit
  if taken.length = count then .done (Nat.ofDigitChars 10 taken 0) (text.drop count)
  else .miss [] text

/-- The number of bytes from here to the end of the text, which marks a place in it. -/
def bytesLeft : Reader Nat := fun text => .done (Text.byteSize text) text

end Reader

end ClipSplice.RuleText

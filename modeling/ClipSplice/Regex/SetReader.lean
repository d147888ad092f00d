import ClipSplice.Regex.Escape

/-!
# Reading sets between brackets

A set lists characters, ranges, named classes and further sets, and may combine two lists by an
operation. `readSet` reads one from behind its opening bracket.
-/

namespace ClipSplice.Regex

/-! ## Items -/

/-- An escape as an item of a set; anchors are none. -/
def Escape.toSetItem? : Escape → Option SetTree
  | .literal l => some (.literal l)
  | .anchor _ => none
  | .letter set negated => some (.letter set negated)
  | .property query negated => some (.property query negated)

/-- One character or escape. -/
def readSetAtom (free : Bool) : List Char → Option (Escape × List Char)
  | [] => none
  | c :: rest => if c = '\\' then readEscape free rest else some (.literal ⟨c, false⟩, rest)

/-- Whether a hyphen whose follower is at the start of `text` stands for itself: before a closing
bracket or another hyphen. Of a comment in between, only the `#` is passed over. -/
def isPlainHyphen (free : Bool) (text : List Char) : Bool :=
  let ahead := if free then
      match text.dropWhile isBlank with
      | '#' :: rest => rest.dropWhile isBlank
      | rest => rest
    else text
  ahead.head? = some ']' || ahead.head? = some '-'

/-- A range of characters, when both ends are characters in order. -/
def rangeOf? : Escape → Escape → Option SetTree
  | .literal low, .literal high => if low.char ≤ high.char then some (.range low high) else none
  | _, _ => none

/-- One item or a range of characters. -/
def readSetItem (free : Bool) (text : List Char) : Option (SetTree × List Char) := do
  let (first, after) ← readSetAtom free text
  match skip free after with
  | [] => none
  | '-' :: rest =>
    if isPlainHyphen free rest then return (← first.toSetItem?, '-' :: rest)
    else
      let (last, after) ← readSetAtom free (skip free rest)
      return (← rangeOf? first last, after)
  | after => return (← first.toSetItem?, after)

/-- A class by its name, such as `[:alpha:]`; `text` follows the first bracket. -/
def readAsciiSet? : List Char → Option (SetTree × List Char)
  | ':' :: text => do
    let (negated, name) := match text with
      | '^' :: name => (true, name)
      | name => (false, name)
    let (name, after) ← Text.cut? ':' name
    match after with
    | ']' :: after => return (.ascii (← CharClass.ascii? (.ofList name)) negated, after)
    | _ => none
  | _ => none

/-! ## Sets -/

/-- Items in a row as one set. -/
def SetTree.ofItems : List SetTree → SetTree
  | [] => .empty
  | [item] => item
  | item :: items => .union item (SetTree.ofItems items)

/-- A set whose closing bracket has not been read. -/
structure OpenSet where
  negated : Bool
  /-- The items read since the last operation, the last one first. -/
  items : List SetTree
  /-- The last operation with its left side. -/
  pending : Option (SetOperation × SetTree) := none

namespace OpenSet

/-- Add an item. -/
def push (set : OpenSet) (item : SetTree) : OpenSet := { set with items := item :: set.items }

/-- What has been read, as one set. -/
def inner (set : OpenSet) : SetTree :=
  let items := SetTree.ofItems set.items.reverse
  match set.pending with
  | none => items
  | some (op, left) => .operation op left items

/-- Begin the right side of an operation. -/
def operate (set : OpenSet) (op : SetOperation) : OpenSet :=
  { set with items := [], pending := some (op, set.inner) }

/-- The set between its brackets. -/
def close (set : OpenSet) : SetTree := .bracket set.negated set.inner

end OpenSet

/-- Hyphens at the start of a set, with free spacing between them. -/
def takeHyphens (free inComment : Bool) : List Char → List SetTree × List Char
  | [] => ([], [])
  | c :: rest =>
    if inComment then takeHyphens free (c ≠ '\n') rest
    else if free && isBlank c then takeHyphens free false rest
    else if free && c = '#' then takeHyphens free true rest
    else if c = '-' then
      let (hyphens, after) := takeHyphens free false rest
      (.literal ⟨'-', false⟩ :: hyphens, after)
    else ([], c :: rest)

/-- The beginning of a set: negation, hyphens, and a closing bracket that stands for itself where
it would leave the set empty. -/
def openSet (free : Bool) (text : List Char) : Option (OpenSet × List Char) :=
  let text := skip free text
  let (negated, text) := match text with
    | '^' :: rest => (true, skip free rest)
    | text => (false, text)
  match takeHyphens free false text with
  | (_, []) => none
  | ([], ']' :: rest) =>
    if (skip free rest).isEmpty then none
    else some ({ negated, items := [.literal ⟨']', false⟩] }, skip free rest)
  | (hyphens, rest) => some ({ negated, items := hyphens.reverse }, rest)

/-- The rest of the innermost of some open sets, up to the end of the outermost, which is given. -/
def readOpenSet (free : Bool) (set : OpenSet) (outer : List OpenSet) :
    (fuel : Nat) → List Char → Option (OpenSet × List Char)
  | 0, _ => none
  | fuel + 1, text =>
    match skip free text with
    | [] => none
    | '[' :: rest =>
      match readAsciiSet? rest with
      | some (item, after) => readOpenSet free (set.push item) outer fuel after
      | none =>
        match openSet free rest with
        | some (inside, after) => readOpenSet free inside (set :: outer) fuel after
        | none => none
    | ']' :: rest =>
      match outer with
      | [] => some (set, rest)
      | next :: others => readOpenSet free (next.push set.close) others fuel rest
    | '&' :: '&' :: rest => readOpenSet free (set.operate .intersection) outer fuel rest
    | '-' :: '-' :: rest => readOpenSet free (set.operate .difference) outer fuel rest
    | '~' :: '~' :: rest => readOpenSet free (set.operate .symmetricDifference) outer fuel rest
    | text =>
      match readSetItem free text with
      | some (item, after) => readOpenSet free (set.push item) outer fuel after
      | none => none

/-- A set whose text follows an opening bracket. -/
def readSet (free : Bool) (text : List Char) : Option (OpenSet × List Char) :=
  match openSet free text with
  | some (set, after) => readOpenSet free set [] (after.length + 1) after
  | none => none

end ClipSplice.Regex

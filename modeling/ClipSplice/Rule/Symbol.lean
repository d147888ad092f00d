/-!
# Playlists

A playlist is a list of symbols. Each names a clip or the file for which the playlist was made.
-/

namespace ClipSplice

/-- An entry of a playlist. Entries of one text differ when one of them is the original. -/
structure Symbol where
  text : String
  isOriginal : Bool
deriving Repr, DecidableEq

namespace Symbol

/-- The file for which the playlist was made. -/
def original (text : String) : Symbol := ⟨text, true⟩

/-- A clip. -/
def clip (text : String) : Symbol := ⟨text, false⟩

/-- A symbol as text. -/
def display (symbol : Symbol) : String :=
  if symbol.isOriginal then symbol.text ++ " (original)" else symbol.text

end Symbol

end ClipSplice

import ClipSplice.Unicode.RangeTable

/-!
# Sets of code points under names

Most sets of the standard go by several names, a long one and a short one. In the lists of such sets
names are in lower case, without blanks, hyphens and underscores; `NamedTable.named?` finds a set by
any of its names.
-/

namespace ClipSplice

/-- A set of code points and the names that it goes by. -/
structure NamedTable where
  names : List String
  table : RangeTable

namespace NamedTable

/-- The first set of a list that goes by the name. -/
def named? (name : String) (tables : List NamedTable) : Option NamedTable :=
  tables.find? fun entry => entry.names.contains name

/-- Whether a character belongs to the set of the given name; an unknown name has no characters. -/
def contains (name : String) (tables : List NamedTable) (c : Char) : Bool :=
  (named? name tables).any fun entry => entry.table.contains c

end NamedTable

end ClipSplice

import EntitySql.Query.Sort

/-! # Pages of results -/

namespace EntitySql

/-- A request for part of the rows. A size of zero means all of them. -/
structure PageRequest where
  /-- The number of rows to skip. -/
  offset : Nat := 0
  /-- The number of rows to return. -/
  size : Nat := 0
  sort : List Order := []
deriving DecidableEq, Repr

namespace PageRequest

/-- The page of a number, from zero on, when every page has `size` rows. -/
def page (number size : Nat) : PageRequest := { offset := number * size, size := size }

def isPaged (p : PageRequest) : Bool := 0 < p.size

def isSorted (p : PageRequest) : Bool := !p.sort.isEmpty

/-- What follows a statement that returns the page; nothing for all rows. -/
def clause (p : PageRequest) : String :=
  if p.isPaged then
    " " ++ (if p.offset = 0 then "" else s!"OFFSET {p.offset} ROWS ")
      ++ s!"FETCH NEXT {p.size} ROWS ONLY "
  else ""

end PageRequest

end EntitySql

/-!
The edit distance of a query from the nearest part of a candidate. An edit replaces, inserts or
deletes a character or swaps two neighbors. The table has a row for each character of the query and
a column for each place in the candidate; a part may begin and end anywhere, so the row above the
first holds zeros and the least number of the last row is the distance.
-/

namespace WaybillBoard.Search

/-- The rows of the table that the next one depends on. -/
structure Rows where
  /-- The character of the row above. -/
  earlier : Option Char
  above : List Nat
  secondAbove : List Nat

/-- The number for ending at `c` when the character of the row is `x`. A swap needs the character
before each of them: `earlier` in the query, and the one of `behind` in the candidate, with the
number two rows up and two columns back. -/
def cell (x : Char) (earlier : Option Char) (behind : Option (Char × Nat)) (c : Char)
    (diagonal above left : Nat) : Nat :=
  let edited := min (min (above + 1) (left + 1)) (diagonal + if x = c then 0 else 1)
  match earlier, behind with
  | some e, some (b, corner) => if x = b ∧ e = c then min edited (corner + 1) else edited
  | _, _ => edited

/-- The numbers of a row after `left`, for the rest of the candidate. The two rows above begin in
the column of `left`. -/
def cellsAfter (x : Char) (earlier : Option Char) (left : Nat) (behind : Option (Char × Nat)) :
    List Char → List Nat → List Nat → List Nat
  | c :: cs, diagonal :: up :: above, corner :: secondAbove =>
    let number := cell x earlier behind c diagonal up left
    number :: cellsAfter x earlier number (some (c, corner)) cs (up :: above) secondAbove
  | _, _, _ => []

/-- The row of a character. Its first number edits everything so far. -/
def nextRow (candidate : List Char) (rows : Rows) (x : Char) : Rows :=
  let first := rows.above.headD 0 + 1
  { earlier := some x
    above := first :: cellsAfter x rows.earlier first none candidate rows.above rows.secondAbove
    secondAbove := rows.above }

def firstRows (candidate : List Char) : Rows :=
  let zeros := List.replicate (candidate.length + 1) 0
  ⟨none, zeros, zeros⟩

/-- The fewest edits that turn the query into some part of the candidate. -/
def distance (query candidate : List Char) : Nat :=
  ((query.foldl (nextRow candidate) (firstRows candidate)).above.min?).getD 0

end WaybillBoard.Search

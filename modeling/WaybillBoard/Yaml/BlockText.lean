import WaybillBoard.Yaml.Character

/-!
Block scalars: lines under an indentation, kept as they are or folded.
-/

namespace WaybillBoard.Yaml.BlockText

/-- What becomes of the breaks at the end. -/
inductive Chomping
  | strip
  | clip
  | keep

def chomping? : Char → Option Chomping
  | '-' => some .strip
  | '+' => some .keep
  | _ => none

structure Header where
  chomping : Chomping
  /-- Zero when the first line decides. -/
  increment : Nat
  rest : List Char

def increment? : List Char → Option (Nat × List Char)
  | [] => some (0, [])
  | c :: cs =>
    if '1' ≤ c ∧ c ≤ '9' then some (c.toNat - 48, cs)
    else if c = '0' then none
    else some (0, c :: cs)

/-- The two marks of a header stand in either order. -/
def marks? : List Char → Option Header
  | [] => some ⟨.clip, 0, []⟩
  | c :: cs =>
    match chomping? c with
    | some chomping => (increment? cs).map fun (increment, rest) => ⟨chomping, increment, rest⟩
    | none => do
      match ← increment? (c :: cs) with
      | (0, rest) => some ⟨.clip, 0, rest⟩
      | (increment, []) => some ⟨.clip, increment, []⟩
      | (increment, next :: rest) =>
        match chomping? next with
        | some chomping => some ⟨chomping, increment, rest⟩
        | none => some ⟨.clip, increment, next :: rest⟩

/-- What follows blanks, a comment and the end of the line. -/
def restOfLine? (cs : List Char) : Option (List Char) :=
  match cs.dropWhile isBlank with
  | [] => some []
  | '#' :: cs => some ((cs.dropWhile (!isBreak ·)).drop 1)
  | c :: cs => if isBreak c then some cs else none

def header? (cs : List Char) : Option Header := do
  let header ← marks? cs
  let rest ← restOfLine? header.rest
  return { header with rest }

/-- The place behind an indentation and the empty lines before it. -/
structure Indentation where
  breaks : List Char
  /-- The greatest column of any of the lines. -/
  widest : Nat
  column : Nat
  rest : List Char

/-- Skips to the limit, or over all spaces when there is none. -/
def indentation? (limit : Nat) : Nat → List Char → Option Indentation
  | column, [] => some ⟨[], column, column, []⟩
  | column, c :: cs =>
    if (limit = 0 || column < limit) && c = ' ' then indentation? limit (column + 1) cs
    else if (limit = 0 || column < limit) && c = '\t' then none
    else if isBreak c then
      (indentation? limit 0 cs).map fun i =>
        { i with breaks := c :: i.breaks, widest := max column i.widest }
    else some ⟨[], column, column, c :: cs⟩

theorem length_rest_le {limit column : Nat} {cs : List Char} {i : Indentation}
    (h : indentation? limit column cs = some i) : i.rest.length ≤ cs.length := by
  induction cs generalizing column i with
  | nil =>
    simp only [indentation?, Option.some.injEq] at h
    simp [← h]
  | cons c cs ih =>
    rw [indentation?] at h
    split at h
    · have := ih h
      simp only [List.length_cons]
      omega
    · split at h
      · cases h
      · split at h
        · obtain ⟨j, hj, rfl⟩ := Option.map_eq_some_iff.1 h
          have := ih hj
          simp only [List.length_cons]
          omega
        · simp only [Option.some.injEq] at h
          simp [← h]

/-- A folded text joins two lines unless one of them begins with a blank. -/
def joint (folded : Bool) (ending : Option Char) (blank : Bool) (i : Indentation) (c : Char) :
    List Char :=
  if folded && ending = some '\n' && !blank && !isBlank c then
    if i.breaks.isEmpty then [' '] else i.breaks
  else ending.toList ++ i.breaks

def tail (chomping : Chomping) (ending : Option Char) (breaks : List Char) : List Char :=
  match chomping with
  | .strip => []
  | .clip => ending.toList
  | .keep => ending.toList ++ breaks

/-- The lines at the limit. `ending` is the break of the line before, and `blank` says that it began
with a blank. -/
def lines (folded : Bool) (chomping : Chomping) (limit : Nat) (ending : Option Char) (blank : Bool)
    (i : Indentation) : Option (List Char × List Char) :=
  if i.column = limit then
    match _rest : i.rest with
    | [] => some (tail chomping ending i.breaks, [])
    | c :: cs =>
      let line := c :: cs.takeWhile (!isBreak ·)
      let after := cs.dropWhile (!isBreak ·)
      match _next : indentation? limit 0 (after.drop 1) with
      | none => none
      | some next =>
        (lines folded chomping limit after.head? (isBlank c) next).map fun (text, rest) =>
          (joint folded ending blank i c ++ line ++ text, rest)
  else some (tail chomping ending i.breaks, i.rest)
termination_by i.rest.length
decreasing_by
  have h := length_rest_le _next
  have := (List.dropWhile_sublist (!isBreak ·) (l := cs)).length_le
  simp only [_rest, List.length_cons]
  simp only [after, List.length_drop] at h
  omega

/-- The text and the rest behind the mark of a block scalar that stands within the indentation
`indent`, which is negative outside of all. -/
def scalar? (folded : Bool) (indent : Int) (cs : List Char) : Option (List Char × List Char) := do
  let header ← header? cs
  let limit := if header.increment = 0 then 0 else header.increment + indent.toNat
  let first ← indentation? limit 0 header.rest
  let limit := if limit = 0 then max first.widest (max (indent + 1).toNat 1) else limit
  lines folded header.chomping limit none false first

/-- The lines of a text, each under two spaces. -/
def encode : Bool → List Char → List Char
  | _, [] => []
  | fresh, c :: cs =>
    if isBreak c then c :: encode true cs
    else (if fresh then [' ', ' '] else []) ++ c :: encode false cs

/-- A first line that begins with a gap cannot show its own indentation. -/
def incrementMark : List Char → List Char
  | c :: _ => if c = ' ' || isBreak c then ['2'] else []
  | [] => []

def chompingOf (cs : List Char) : Chomping :=
  match cs.reverse with
  | [] => .strip
  | [c] => if isBreak c then .keep else .strip
  | last :: c :: _ => if isBreak last then if isBreak c then .keep else .clip else .strip

def Chomping.mark : Chomping → List Char
  | .strip => ['-']
  | .clip => []
  | .keep => ['+']

/-- A literal text, which ends its line. -/
def write (cs : List Char) : List Char :=
  '|' :: (incrementMark cs ++ (chompingOf cs).mark ++ '\n' :: encode true cs
    ++ (match cs.getLast? with
      | some last => if isBreak last then [] else ['\n']
      | none => []))

end WaybillBoard.Yaml.BlockText

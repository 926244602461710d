import WaybillBoard.Binary64.Basic
import WaybillBoard.Search.Distance
import WaybillBoard.Text.Blank
import WaybillBoard.Text.Lowercase
import WaybillBoard.Waybill.Basic

/-!
Fuzzy search of Waybills by namespace. A hit is near enough to the query for its length; hits are
ordered by distance, then exact ones come first and those that begin with the query second, then by
the length of the namespace, then as they stand in the list.
-/

namespace WaybillBoard.Search

/-- How far a query is from a candidate. -/
abbrev Matcher := List Char → List Char → Nat

structure Hit where
  /-- The place in the list. -/
  index : Nat
  distance : Nat
  /-- The distance per character of the query. -/
  score : Binary64
  deriving DecidableEq

/-- How a key meets a query. -/
inductive MatchKind
  | exact
  | start
  | other
  deriving DecidableEq, Repr

def MatchKind.rank : MatchKind → Nat
  | .exact => 0
  | .start => 1
  | .other => 2

def MatchKind.of (query key : List Char) : MatchKind :=
  if key = query then .exact else if query.isPrefixOf key then .start else .other

/-- A hit with what else decides its place. -/
structure Candidate where
  hit : Hit
  kind : MatchKind
  length : Nat

/-- The order of candidates, first by the first number. -/
def Candidate.order (c : Candidate) : List Nat :=
  [c.hit.distance, c.kind.rank, c.length, c.hit.index]

/-- Does one list of numbers come before another, or are they the same? -/
def notAfter : List Nat → List Nat → Bool
  | [], _ => true
  | _ :: _, [] => false
  | a :: as, b :: bs => a < b || (a = b && notAfter as bs)

/-- The query as it is compared: without blanks around it, in lower case. -/
def normalized (query : String) : List Char := Text.lowercase (Text.trim query.toList)

/-- The namespace of a Waybill as it is compared. -/
def keyOf (w : Waybill) : List Char := Text.lowercase w.namespaceName.toList

/-- The distance per character of the query, both as binary64 values. -/
def scoreOf (query : List Char) (distance : Nat) : Binary64 :=
  (Binary64.ofNat distance).quotient (.ofNat query.length)

def defaultThreshold : Binary64 := .ofDecimal false 3 (-1)

/-- The keys of a list of Waybills. -/
structure Index where
  keys : List (List Char)
  /-- The largest score of a hit. -/
  threshold : Binary64

namespace Index

def build (waybills : List Waybill) (threshold : Binary64) : Index :=
  ⟨waybills.map keyOf, threshold⟩

def size (i : Index) : Nat := i.keys.length

/-- The candidate of a key, unless its score is past the threshold. -/
def candidate? (i : Index) (matcher : Matcher) (query : List Char) (index : Nat) (key : List Char) :
    Option Candidate :=
  let distance := matcher query key
  let score := scoreOf query distance
  if i.threshold.lt score then none
  else some ⟨⟨index, distance, score⟩, MatchKind.of query key, key.length⟩

/-- The hits in order. Without a query every Waybill is one. -/
def hits (i : Index) (matcher : Matcher) (query : String) : List Hit :=
  let query := normalized query
  if query = [] then
    (List.range i.keys.length).map (fun index => ⟨index, 0, Binary64.zero false⟩)
  else
    let candidates :=
      i.keys.zipIdx.filterMap fun (key, index) => i.candidate? matcher query index key
    (candidates.mergeSort (fun a b => notAfter a.order b.order)).map Candidate.hit

/-- The hits by edit distance. -/
def search (i : Index) (query : String) : List Hit := i.hits distance query

end Index

/-- The Waybills that a query finds, in the order of the hits. -/
def find (waybills : List Waybill) (query : String) (threshold : Binary64) : List Waybill :=
  ((Index.build waybills threshold).search query).filterMap (fun hit => waybills[hit.index]?)

end WaybillBoard.Search

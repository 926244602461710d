import Mathlib.Order.Lattice.Nat
import WaybillBoard.Search.Distance

/-!
Alignments of a query with a text. An alignment goes through both from left to right in pieces: a
kept character, a replaced, inserted or deleted one, or two neighbors that change places. Every
character belongs to one piece, so none is edited again after a swap.
-/

namespace WaybillBoard.Search

/-- An alignment of a query with a text, and its cost: one for each edit. -/
inductive Alignment : List Char → List Char → Nat → Prop
  | empty : Alignment [] [] 0
  | keep {query text cost} (c : Char) :
      Alignment query text cost → Alignment (c :: query) (c :: text) cost
  | replace {query text cost} {a b : Char} : a ≠ b →
      Alignment query text cost → Alignment (a :: query) (b :: text) (cost + 1)
  | insert {query text cost} (b : Char) :
      Alignment query text cost → Alignment query (b :: text) (cost + 1)
  | delete {query text cost} (a : Char) :
      Alignment query text cost → Alignment (a :: query) text (cost + 1)
  | swap {query text cost} (a b : Char) :
      Alignment query text cost → Alignment (a :: b :: query) (b :: a :: text) (cost + 1)

/-- The least cost of an alignment. -/
noncomputable def editDistance (query text : List Char) : Nat :=
  sInf {cost | Alignment query text cost}

theorem Alignment.deleteAll (query : List Char) : Alignment query [] query.length := by
  induction query with
  | nil => exact .empty
  | cons a query ih => exact .delete a ih

theorem Alignment.refl (query : List Char) : Alignment query query 0 := by
  induction query with
  | nil => exact .empty
  | cons a query ih => exact .keep a ih

/-- What costs nothing keeps every character. -/
theorem Alignment.eq_of_zero {query text : List Char} (h : Alignment query text 0) :
    query = text := by
  generalize hcost : 0 = cost at h
  induction h with
  | empty => rfl
  | keep c _ ih => exact congrArg _ (ih hcost)
  | replace => cases hcost
  | insert => cases hcost
  | delete => cases hcost
  | swap => cases hcost

/-- There is always an alignment: one that deletes the query and inserts the text. -/
theorem Alignment.rewrite (query text : List Char) :
    Alignment query text (query.length + text.length) := by
  induction text with
  | nil => exact .deleteAll query
  | cons b text ih => exact .insert b ih

theorem alignment_editDistance (query text : List Char) :
    Alignment query text (editDistance query text) :=
  Nat.sInf_mem ⟨_, Alignment.rewrite query text⟩

theorem editDistance_le {query text : List Char} {cost : Nat} (h : Alignment query text cost) :
    editDistance query text ≤ cost := Nat.sInf_le h

theorem Alignment.append {query text : List Char} {cost : Nat} (h : Alignment query text cost)
    {query' text' : List Char} {cost' : Nat} (h' : Alignment query' text' cost') :
    Alignment (query ++ query') (text ++ text') (cost + cost') := by
  induction h with
  | empty => simpa only [List.nil_append, Nat.zero_add] using h'
  | keep c _ ih => exact .keep c ih
  | replace hab _ ih =>
      rw [Nat.add_right_comm]
      exact .replace hab ih
  | insert b _ ih =>
      rw [Nat.add_right_comm]
      exact .insert b ih
  | delete a _ ih =>
      rw [Nat.add_right_comm]
      exact .delete a ih
  | swap a b _ ih =>
      rw [Nat.add_right_comm]
      exact .swap a b ih

/-- Read backwards, an alignment is one of the same cost. -/
theorem Alignment.reverse {query text : List Char} {cost : Nat} (h : Alignment query text cost) :
    Alignment query.reverse text.reverse cost := by
  induction h with
  | empty => exact .empty
  | keep c _ ih =>
      simpa only [List.reverse_cons, Nat.add_zero] using ih.append (.keep c .empty)
  | replace hab _ ih => simpa only [List.reverse_cons] using ih.append (.replace hab .empty)
  | insert b _ ih =>
      simpa only [List.reverse_cons, List.append_nil] using ih.append (.insert b .empty)
  | delete a _ ih =>
      simpa only [List.reverse_cons, List.append_nil] using ih.append (.delete a .empty)
  | swap a b _ ih =>
      simpa only [List.reverse_cons, List.append_assoc, List.cons_append, List.nil_append] using
        ih.append (.swap b a .empty)

end WaybillBoard.Search

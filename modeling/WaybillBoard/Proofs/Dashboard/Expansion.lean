import WaybillBoard.Dashboard.Basic

/-!
Expansion: what the setting of one namespace, and the forgetting of some, do to the others.
-/

namespace WaybillBoard

namespace Expansion

theorem get?_filter (e : Expansion) {p : String → Bool} {ns : String} (h : p ns = true) :
    Expansion.get? (e.filter fun entry => p entry.1) ns = e.get? ns := by
  unfold get?
  induction e with
  | nil => rfl
  | cons entry e ih =>
      obtain ⟨name, expanded⟩ := entry
      by_cases same : ns = name
      · subst same
        simp [h]
      · have hne : (ns == name) = false := beq_false_of_ne same
        rw [List.lookup_cons, hne, List.filter_cons]
        split
        · rw [List.lookup_cons, hne]
          exact ih
        · exact ih

theorem get?_filter_false (e : Expansion) {p : String → Bool} {ns : String} (h : p ns = false) :
    Expansion.get? (e.filter fun entry => p entry.1) ns = none := by
  unfold get?
  rw [List.lookup_eq_none_iff]
  intro entry hentry
  have hp := (List.mem_filter.mp hentry).2
  apply bne_iff_ne.mpr
  rintro rfl
  rw [h] at hp
  cases hp

theorem filter_set (e : Expansion) {p : String → Bool} {ns : String} (expanded : Bool)
    (h : p ns = true) :
    (e.set ns expanded).filter (fun entry => p entry.1) =
      Expansion.set (e.filter fun entry => p entry.1) ns expanded := by
  simp [set, h, List.filter_filter, Bool.and_comm]

theorem get?_set (e : Expansion) (name ns : String) (expanded : Bool) :
    (e.set name expanded).get? ns = if ns = name then some expanded else e.get? ns := by
  by_cases same : ns = name
  · subst same
    rw [if_pos rfl, set, get?, List.lookup_cons_self]
  · have hkept := e.get?_filter (p := fun ns => ns ≠ name) (decide_eq_true same)
    rw [if_neg same, set, get?, List.lookup_cons, beq_false_of_ne same]
    exact hkept

theorem get?_setAll (waybills : List Waybill) (e : Expansion) (ns : String) (expanded : Bool) :
    (waybills.foldl (fun e w => e.set w.namespaceName expanded) e).get? ns =
      if waybills.any (·.namespaceName = ns) then some expanded else e.get? ns := by
  induction waybills generalizing e with
  | nil => rfl
  | cons w waybills ih =>
      rw [List.foldl_cons, ih, get?_set, List.any_cons]
      by_cases same : w.namespaceName = ns
      · simp [same]
      · simp [same, Ne.symm same]

end Expansion

theorem Dashboard.isExpanded_toggle (d : Dashboard) (name ns : String) :
    (d.toggle name).isExpanded ns = if ns = name then !d.isExpanded name else d.isExpanded ns := by
  have hset := d.expansion.get?_set name ns (!d.isExpanded name)
  unfold toggle isExpanded at *
  rw [hset]
  split <;> rfl

theorem Dashboard.isExpanded_setAllExpanded (d : Dashboard) (all : Bool) (ns : String) :
    (d.setAllExpanded all).isExpanded ns =
      if d.snapshot.any (·.holds ns) then all else d.isExpanded ns := by
  cases hs : d.snapshot with
  | none => simp only [setAllExpanded, hs, Option.any_none, Bool.false_eq_true, if_false]
  | some s =>
      have hset := d.expansion.get?_setAll s.waybills ns all
      simp only [setAllExpanded, hs, isExpanded]
      rw [hset, Option.any_some, Snapshot.holds]
      by_cases hin : s.waybills.any (·.namespaceName = ns) = true
      · rw [if_pos hin, if_pos hin, Option.getD_some]
      · rw [if_neg hin, if_neg hin]
        rfl

end WaybillBoard

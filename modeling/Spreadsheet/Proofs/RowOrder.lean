import Spreadsheet.Sheet.Order

/-!
# Orders of rows

An order of `n` rows is an arrangement of the positions below `n`. Rows picked in an order are the
same rows, orders picked in an order are orders again, and putting rows back undoes picking them. A
second order on top of a first is undone together with it: what is put back by the picked order is
what was put back before.
-/

namespace Spreadsheet

variable {α : Type}

theorem getElem?_of_idxOf? [BEq α] [LawfulBEq α] {xs : List α} {a : α} {i : Nat}
    (h : xs.idxOf? a = some i) : xs[i]? = some a := by
  obtain ⟨inside, found, -⟩ := List.idxOf?_eq_some_iff.mp h
  rw [List.getElem?_eq_getElem inside, found]

/-- Without repetitions an element is found where it stands. -/
theorem idxOf?_iff_getElem? [BEq α] [LawfulBEq α] {xs : List α} (distinct : xs.Nodup) {a : α}
    {i : Nat} :
    xs.idxOf? a = some i ↔ xs[i]? = some a := by
  constructor
  · exact getElem?_of_idxOf?
  · intro h
    obtain ⟨inside, rfl⟩ := List.getElem?_eq_some_iff.mp h
    refine List.idxOf?_eq_some_iff.mpr ⟨inside, rfl, fun j hj same => ?_⟩
    have apart := List.pairwise_iff_getElem.mp distinct j i (by omega) inside hj
    exact apart same

/-- An arrangement of the positions below `n`. -/
def IsOrder (n : Nat) (order : List Nat) : Prop :=
  order.Perm (List.range n)

namespace IsOrder

variable {n : Nat} {order : List Nat}

theorem range (n : Nat) : IsOrder n (List.range n) :=
  List.Perm.refl _

theorem length (h : IsOrder n order) : order.length = n := by
  rw [List.Perm.length_eq h, List.length_range]

theorem nodup (h : IsOrder n order) : order.Nodup :=
  (List.Perm.nodup_iff h).mpr List.nodup_range

theorem mem_iff (h : IsOrder n order) {i : Nat} : i ∈ order ↔ i < n := by
  rw [List.Perm.mem_iff h, List.mem_range]

theorem lt_of_getElem? (h : IsOrder n order) {i j : Nat} (hi : order[i]? = some j) : j < n :=
  h.mem_iff.mp (List.mem_of_getElem? hi)

/-- Every position stands somewhere in an order. -/
theorem exists_idxOf? (h : IsOrder n order) {i : Nat} (hi : i < n) :
    ∃ j, j < n ∧ order.idxOf? i = some j := by
  obtain ⟨j, hj⟩ := List.mem_iff_getElem?.mp (h.mem_iff.mpr hi)
  refine ⟨j, ?_, (idxOf?_iff_getElem? h.nodup).mpr hj⟩
  have inside := (List.getElem?_eq_some_iff.mp hj).1
  rwa [h.length] at inside

end IsOrder

theorem isOrder_sortOrder (direction : SortDirection) (keys : List SortKey) :
    IsOrder keys.length (Sheet.sortOrder direction keys) := by
  have sorted := List.mergeSort_perm keys.zipIdx
    fun k l => SortKey.precedes direction k.1 l.1
  have positions := sorted.map (·.2)
  rw [List.zipIdx_map_snd, ← List.range_eq_range'] at positions
  exact positions

theorem isOrder_sortKeys (s : Sheet) (col : Nat) (direction : SortDirection) :
    IsOrder s.height (Sheet.sortOrder direction (s.sortKeys col)) := by
  have order := isOrder_sortOrder direction (s.sortKeys col)
  rwa [Sheet.sortKeys, List.length_map] at order

/-- Where every element gives one, mapping keeps them all. -/
theorem map_some_filterMap {β : Type} {f : α → Option β} {xs : List α}
    (h : ∀ x ∈ xs, (f x).isSome = true) : (xs.filterMap f).map some = xs.map f := by
  induction xs with
  | nil => rfl
  | cons x rest ih =>
    obtain ⟨y, hy⟩ := Option.isSome_iff_exists.mp (h x List.mem_cons_self)
    rw [List.filterMap_cons_some hy, List.map_cons, List.map_cons, hy,
      ih fun z hz => h z (List.mem_cons_of_mem _ hz)]

theorem getElem?_of_map_some {xs : List α} {ys : List (Option α)} (h : xs.map some = ys) (i : Nat) :
    xs[i]? = ys[i]?.join := by
  rw [← h, List.getElem?_map]
  cases xs[i]? <;> rfl

section Picking

variable {xs : List α} {order : List Nat}

theorem pick_map_some (h : IsOrder xs.length order) :
    (pick order xs).map some = order.map (xs[·]?) := by
  apply map_some_filterMap
  intro i hi
  simp [h.mem_iff.mp hi]

theorem length_pick (h : IsOrder xs.length order) : (pick order xs).length = xs.length := by
  have read := congrArg List.length (pick_map_some h)
  rwa [List.length_map, List.length_map, h.length] at read

theorem getElem?_pick (h : IsOrder xs.length order) (i : Nat) :
    (pick order xs)[i]? = order[i]?.bind (xs[·]?) := by
  rw [getElem?_of_map_some (pick_map_some h), List.getElem?_map]
  cases order[i]? <;> rfl

theorem pick_range (xs : List α) : pick (List.range xs.length) xs = xs := by
  apply List.ext_getElem?
  intro i
  rw [getElem?_pick (IsOrder.range _)]
  by_cases hi : i < xs.length
  · simp [hi]
  · simp [hi]

theorem pick_perm (h : IsOrder xs.length order) : (pick order xs).Perm xs := by
  have same : (pick order xs).Perm (pick (List.range xs.length) xs) := List.Perm.filterMap _ h
  rwa [pick_range] at same

theorem unpick_map_some (h : IsOrder xs.length order) :
    (unpick order xs).map some =
      (List.range xs.length).map fun i => (order.idxOf? i).bind (xs[·]?) := by
  apply map_some_filterMap
  intro i hi
  obtain ⟨j, hj, found⟩ := h.exists_idxOf? (List.mem_range.mp hi)
  simp [found, hj]

theorem length_unpick (h : IsOrder xs.length order) : (unpick order xs).length = xs.length := by
  have read := congrArg List.length (unpick_map_some h)
  rwa [List.length_map, List.length_map, List.length_range] at read

theorem getElem?_unpick (h : IsOrder xs.length order) (i : Nat) :
    (unpick order xs)[i]? = (order.idxOf? i).bind (xs[·]?) := by
  rw [getElem?_of_map_some (unpick_map_some h), List.getElem?_map]
  by_cases hi : i < xs.length
  · rw [List.getElem?_range hi]
    rfl
  · have missing : order.idxOf? i = none := by
      rw [List.idxOf?_eq_none_iff, h.mem_iff]
      exact hi
    rw [missing, List.getElem?_eq_none (by rw [List.length_range]; omega)]
    rfl

theorem unpick_range (xs : List α) : unpick (List.range xs.length) xs = xs := by
  apply List.ext_getElem?
  intro i
  rw [getElem?_unpick (IsOrder.range _)]
  by_cases hi : i < xs.length
  · have here : (List.range xs.length).idxOf? i = some i :=
      (idxOf?_iff_getElem? List.nodup_range).mpr (List.getElem?_range hi)
    rw [here, Option.bind_some]
  · have missing : (List.range xs.length).idxOf? i = none := by
      rw [List.idxOf?_eq_none_iff, List.mem_range]
      exact hi
    rw [missing, Option.bind_none, List.getElem?_eq_none (by omega)]

/-- Putting back by a picked order puts back by the order it was picked from. -/
theorem unpick_pick_pick {first second : List Nat} (h : IsOrder xs.length first)
    (h' : IsOrder xs.length second) :
    unpick (pick second first) (pick second xs) = unpick first xs := by
  have hfirst : IsOrder first.length second := by rwa [h.length]
  have both : IsOrder xs.length (pick second first) := (pick_perm hfirst).trans h
  have picked : (pick second xs).length = xs.length := length_pick h'
  apply List.ext_getElem?
  intro i
  rw [getElem?_unpick (by rwa [picked]), getElem?_unpick h]
  by_cases hi : i < xs.length
  · obtain ⟨j, -, hj⟩ := both.exists_idxOf? hi
    have stands := getElem?_of_idxOf? hj
    rw [getElem?_pick hfirst] at stands
    obtain ⟨k, hk, before⟩ := Option.bind_eq_some_iff.mp stands
    have earlier := (idxOf?_iff_getElem? h.nodup).mpr before
    rw [hj, earlier, Option.bind_some, Option.bind_some, getElem?_pick h', hk, Option.bind_some]
  · have missing : ∀ {order : List Nat}, IsOrder xs.length order → order.idxOf? i = none := by
      intro order ho
      rw [List.idxOf?_eq_none_iff, ho.mem_iff]
      exact hi
    rw [missing both, missing h, Option.bind_none, Option.bind_none]

theorem unpick_pick (h : IsOrder xs.length order) : unpick order (pick order xs) = xs := by
  have undone := unpick_pick_pick (IsOrder.range xs.length) h
  have all : pick order (List.range xs.length) = order := by
    apply List.ext_getElem?
    intro i
    rw [getElem?_pick (by rwa [List.length_range])]
    cases hi : order[i]? with
    | none => rfl
    | some j => simp [h.lt_of_getElem? hi]
  rwa [all, unpick_range] at undone

end Picking

theorem IsOrder.pick {n : Nat} {first second : List Nat} (h : IsOrder n first)
    (h' : IsOrder n second) : IsOrder n (pick second first) :=
  (pick_perm (by rwa [h.length])).trans h

theorem mem_of_mem_pick {xs : List α} {order : List Nat} {x : α} (h : x ∈ pick order xs) :
    x ∈ xs := by
  obtain ⟨i, -, hi⟩ := List.mem_filterMap.mp h
  exact List.mem_of_getElem? hi

theorem mem_of_mem_unpick {xs : List α} {order : List Nat} {x : α} (h : x ∈ unpick order xs) :
    x ∈ xs := by
  obtain ⟨i, -, hi⟩ := List.mem_filterMap.mp h
  obtain ⟨j, -, hj⟩ := Option.bind_eq_some_iff.mp hi
  exact List.mem_of_getElem? hj

end Spreadsheet

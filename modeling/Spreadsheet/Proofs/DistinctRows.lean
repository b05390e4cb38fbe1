import Spreadsheet.Proofs.Mentions
import Spreadsheet.Proofs.SplitRanges
import Spreadsheet.Proofs.StoredNumbers

/-!
# Rows without duplicates

Two slices are written alike only if they hold the same cells. So the rows kept are the ones that
agree with no earlier row of the range, a row goes only if one like it stays, and of rows without
duplicates none goes.
-/

namespace Spreadsheet

theorem toJson_map_inj {s s' : Row} (clean : ∀ c ∈ s, c.Clean) (clean' : ∀ c ∈ s', c.Clean)
    (same : s.map Cell.toJson = s'.map Cell.toJson) : s = s' := by
  induction s generalizing s' with
  | nil => exact (List.map_eq_nil_iff.mp same.symm).symm
  | cons c s ih =>
    obtain ⟨c', rest, rfl, first, others⟩ := List.map_eq_cons_iff.mp same.symm
    rw [List.forall_mem_cons] at clean clean'
    rw [clean.1.toJson_inj clean'.1 first.symm, ih clean.2 clean'.2 others.symm]

/-- Slices that are written alike are the same. -/
theorem sliceKey_inj {s s' : Row} (clean : ∀ c ∈ s, c.Clean) (clean' : ∀ c ∈ s', c.Clean)
    (same : sliceKey s = sliceKey s') : s = s' := by
  have reads : ∀ {s : Row}, (∀ c ∈ s, c.Clean) →
      Json.parse? (sliceKey s) = some (.array (s.map Cell.toJson)) := by
    intro s clean
    refine (Json.Exact.array fun item hitem => ?_).parse?_render
    obtain ⟨c, hc, rfl⟩ := List.mem_map.mp hitem
    exact (clean c hc).exact_toJson
  have items := reads clean
  rw [same, reads clean', Option.some.injEq, Json.array.injEq] at items
  exact toJson_map_inj clean clean' items.symm

namespace Block

/-- Row `i` of one grid and row `k` of another hold the same in every column of the block. -/
def Agree (b : Block) (g : Grid) (i : Nat) (h : Grid) (k : Nat) : Prop :=
  ∀ col ≤ b.right, b.left ≤ col → g.cell? i col = h.cell? k col

instance (b : Block) (g : Grid) (i : Nat) (h : Grid) (k : Nat) : Decidable (b.Agree g i h k) :=
  inferInstanceAs (Decidable (∀ col ≤ b.right, b.left ≤ col → g.cell? i col = h.cell? k col))

/-- No earlier row of the block agrees with row `i`. -/
def IsFirst (b : Block) (g : Grid) (i : Nat) : Prop :=
  ∀ k < i, b.top ≤ k → ¬b.Agree g k g i

instance (b : Block) (g : Grid) (i : Nat) : Decidable (b.IsFirst g i) :=
  inferInstanceAs (Decidable (∀ k < i, b.top ≤ k → ¬b.Agree g k g i))

/-- The positions of the rows of a block that agree with no earlier row of it, in order. -/
def firsts (b : Block) (g : Grid) : List Nat :=
  (List.range' b.top (b.bottom + 1 - b.top)).filter fun i => b.IsFirst g i

/-- The rows at these positions, at their full width. -/
def firstRows (b : Block) (g : Grid) : List Row :=
  (b.firsts g).filterMap (g[·]?)

/-- What a row is told by. -/
def key (b : Block) (row : Row) : Text :=
  sliceKey (b.slice row)

variable {b : Block} {g : Grid}

theorem distinctRows_cons (b : Block) (row : Row) (rest : List Row) (seen : List Text) :
    distinctRows b (row :: rest) seen =
      if b.key row ∈ seen then distinctRows b rest seen
      else row :: distinctRows b rest (b.key row :: seen) := by
  rw [distinctRows]
  exact if_congr List.contains_iff_mem rfl rfl

/-- The last row is kept unless a row before it has the same key. -/
theorem distinctRows_concat (b : Block) (rows : List Row) (row : Row) (seen : List Text) :
    distinctRows b (rows ++ [row]) seen =
      distinctRows b rows seen ++ if b.key row ∈ rows.map b.key ∨ b.key row ∈ seen then []
        else [row] := by
  induction rows generalizing seen with
  | nil => simp only [List.nil_append, distinctRows_cons, distinctRows, List.map_nil,
      List.not_mem_nil, false_or]
  | cons r rest ih =>
    rw [List.cons_append, distinctRows_cons, distinctRows_cons]
    by_cases known : b.key r ∈ seen
    · have same : b.key row ∈ (r :: rest).map b.key ∨ b.key row ∈ seen ↔
          b.key row ∈ rest.map b.key ∨ b.key row ∈ seen := by
        rw [List.map_cons, List.mem_cons, or_assoc, or_iff_right_of_imp]
        intro again
        exact .inr (again ▸ known)
      simp only [if_pos known, ih, same]
    · have same : b.key row ∈ (r :: rest).map b.key ∨ b.key row ∈ seen ↔
          b.key row ∈ rest.map b.key ∨ b.key row ∈ b.key r :: seen := by
        rw [List.map_cons, List.mem_cons, List.mem_cons, or_assoc, or_left_comm]
      simp only [if_neg known, ih, same, List.cons_append]

/-- In a grid of clean cells that are all there, rows have the same key if and only if they agree. -/
theorem key_eq_iff {width : Nat} (even : g.Even width) (right : b.right < width)
    (clean : ∀ row ∈ g, ∀ c ∈ row, c.Clean) {i k : Nat} {row row' : Row} (hi : g[i]? = some row)
    (hk : g[k]? = some row') : b.key row = b.key row' ↔ b.Agree g i g k := by
  have slices : ∀ {j : Nat} {row : Row}, g[j]? = some row →
      b.slice row = span b.left b.right row ∧ ∀ c ∈ span b.left b.right row, c.Clean := by
    intro j row hj
    have member := List.mem_of_getElem? hj
    refine ⟨if_pos (even row member ▸ right), fun c hc => clean row member c ?_⟩
    exact List.mem_of_mem_drop (List.mem_of_mem_take hc)
  obtain ⟨slice, cells⟩ := slices hi
  obtain ⟨slice', cells'⟩ := slices hk
  have same : b.key row = b.key row' ↔ span b.left b.right row = span b.left b.right row' := by
    rw [key, key, slice, slice']
    exact ⟨sliceKey_inj cells cells', congrArg sliceKey⟩
  rw [same]
  constructor
  · intro equal col atMost atLeast
    have here := congrArg (·[col - b.left]?) equal
    simp only [getElem?_span, show b.left + (col - b.left) = col by omega, if_pos atMost] at here
    rw [Grid.cell?, Grid.cell?, hi, hk]
    exact here
  · intro agree
    refine List.ext_getElem? fun n => ?_
    rw [getElem?_span, getElem?_span]
    split
    · have here := agree (b.left + n) ‹_› (Nat.le_add_right _ _)
      rwa [Grid.cell?, Grid.cell?, hi, hk] at here
    · rfl

/-- From the first row on, the rows kept are those that agree with none before them. The induction
is on the number of rows read, and what has been seen is the keys of all of them. -/
theorem distinctRows_eq {width : Nat} (even : g.Even width) (right : b.right < width)
    (clean : ∀ row ∈ g, ∀ c ∈ row, c.Clean) {n : Nat} (inside : b.top + n ≤ g.length) :
    distinctRows b ((List.range' b.top n).filterMap (g[·]?)) [] =
      ((List.range' b.top n).filter fun i => b.IsFirst g i).filterMap (g[·]?) := by
  induction n with
  | zero => rfl
  | succ n ih =>
    have here : g[b.top + n]? = some g[b.top + n] := List.getElem?_eq_getElem (by omega)
    have seen : b.key g[b.top + n] ∈ ((List.range' b.top n).filterMap (g[·]?)).map b.key ∨
        b.key g[b.top + n] ∈ [] ↔ ¬b.IsFirst g (b.top + n) := by
      simp only [List.not_mem_nil, or_false, List.mem_map, List.mem_filterMap, List.mem_range'_1,
        IsFirst, not_forall, not_not]
      constructor
      · rintro ⟨row, ⟨k, between, hk⟩, same⟩
        exact ⟨k, between.2, between.1, (key_eq_iff even right clean hk here).mp same⟩
      · rintro ⟨k, below, above, agree⟩
        have hk : g[k]? = some g[k] := List.getElem?_eq_getElem (by omega)
        exact ⟨g[k], ⟨k, ⟨above, below⟩, hk⟩, (key_eq_iff even right clean hk here).mpr agree⟩
    rw [List.range'_1_concat, List.filterMap_append, List.filter_append, List.filterMap_append,
      List.filterMap_cons_some here, List.filterMap_nil, distinctRows_concat, ih (by omega)]
    congr 1
    by_cases first : b.IsFirst g (b.top + n)
    · have kept : [b.top + n].filter (fun i => b.IsFirst g i) = [b.top + n] := by
        simpa using first
      rw [if_neg (fun again => seen.mp again first), kept, List.filterMap_cons_some here,
        List.filterMap_nil]
    · have dropped : [b.top + n].filter (fun i => b.IsFirst g i) = [] := by
        simpa using first
      rw [if_pos (seen.mpr first), dropped, List.filterMap_nil]

section Firsts

variable {i k : Nat}

theorem Agree.symm {h : Grid} (agree : b.Agree g i h k) : b.Agree h k g i :=
  fun col atMost atLeast => (agree col atMost atLeast).symm

theorem Agree.trans {h h' : Grid} {j : Nat} (agree : b.Agree g i h k) (next : b.Agree h k h' j) :
    b.Agree g i h' j :=
  fun col atMost atLeast => (agree col atMost atLeast).trans (next col atMost atLeast)

theorem mem_firsts_iff : i ∈ b.firsts g ↔ (b.top ≤ i ∧ i ≤ b.bottom) ∧ b.IsFirst g i := by
  rw [firsts, List.mem_filter, List.mem_range'_1, decide_eq_true_eq]
  refine and_congr_left fun _ => ?_
  omega

theorem pairwise_firsts (b : Block) (g : Grid) : (b.firsts g).Pairwise (· < ·) :=
  (List.pairwise_lt_range' 1 Nat.one_pos).filter _

theorem firstRows_eq_map (bottom : b.bottom < g.length) :
    b.firstRows g = (b.firsts g).map (g.getD · []) := by
  have there : ∀ i ∈ b.firsts g, g[i]? = some (g.getD i []) := by
    intro i hi
    have inside := (mem_firsts_iff.mp hi).1.2
    rw [List.getD_eq_getElem?_getD, List.getElem?_eq_getElem (by omega), Option.getD_some]
  rw [firstRows, List.filterMap_congr there]
  exact congrFun List.filterMap_eq_map _

theorem length_firstRows (bottom : b.bottom < g.length) :
    (b.firstRows g).length = (b.firsts g).length := by
  rw [firstRows_eq_map bottom, List.length_map]

/-- The row kept at position `k` is the row of the grid that it was taken from. -/
theorem cell?_firstRows (bottom : b.bottom < g.length) (hk : (b.firsts g)[k]? = some i)
    (col : Nat) : Grid.cell? (b.firstRows g) k col = g.cell? i col := by
  have inside := (mem_firsts_iff.mp (List.mem_of_getElem? hk)).1.2
  rw [Grid.cell?, Grid.cell?, firstRows_eq_map bottom, List.getElem?_map, hk, Option.map_some,
    List.getD_eq_getElem?_getD, List.getElem?_eq_getElem (by omega), Option.getD_some]

/-- Every row of the block agrees with one that is kept. -/
theorem exists_first (above : b.top ≤ i) (below : i ≤ b.bottom) :
    ∃ j ∈ b.firsts g, b.Agree g i g j := by
  induction i using Nat.strongRecOn with
  | _ i ih =>
    by_cases first : b.IsFirst g i
    · exact ⟨i, mem_firsts_iff.mpr ⟨⟨above, below⟩, first⟩, fun _ _ _ => rfl⟩
    · simp only [IsFirst, not_forall, not_not] at first
      obtain ⟨k, before, above', agree⟩ := first
      obtain ⟨j, hj, same⟩ := ih k before above' (by omega)
      exact ⟨j, hj, agree.symm.trans same⟩

/-- No two of the rows kept agree. -/
theorem not_agree_firstRows (bottom : b.bottom < g.length) {k' : Nat} (less : k < k')
    (inside : k' < (b.firstRows g).length) :
    ¬b.Agree (b.firstRows g) k (b.firstRows g) k' := by
  intro agree
  rw [length_firstRows bottom] at inside
  have inside' := Nat.lt_trans less inside
  have hk := List.getElem?_eq_getElem inside'
  have hk' := List.getElem?_eq_getElem inside
  have order := List.pairwise_iff_getElem.mp (b.pairwise_firsts g) k k' inside' inside less
  have above := (mem_firsts_iff.mp (List.mem_of_getElem? hk)).1.1
  have first := (mem_firsts_iff.mp (List.mem_of_getElem? hk')).2
  refine first _ order above fun col atMost atLeast => ?_
  rw [← cell?_firstRows bottom hk, ← cell?_firstRows bottom hk']
  exact agree col atMost atLeast

/-- Every row of the block agrees with one row that is kept and with no other. -/
theorem existsUnique_firstRows (bottom : b.bottom < g.length) (above : b.top ≤ i)
    (below : i ≤ b.bottom) :
    ∃! k, k < (b.firstRows g).length ∧ b.Agree g i (b.firstRows g) k := by
  obtain ⟨j, hj, agree⟩ := exists_first (g := g) above below
  obtain ⟨k, hk⟩ := List.mem_iff_getElem?.mp hj
  have inside : k < (b.firstRows g).length := by
    rw [length_firstRows bottom]
    exact (List.getElem?_eq_some_iff.mp hk).1
  have same : b.Agree g i (b.firstRows g) k := fun col atMost atLeast => by
    rw [cell?_firstRows bottom hk]
    exact agree col atMost atLeast
  refine ⟨k, ⟨inside, same⟩, ?_⟩
  rintro k' ⟨inside', same'⟩
  rcases Nat.lt_trichotomy k k' with less | rfl | more
  · exact absurd (same.symm.trans same') (not_agree_firstRows bottom less inside')
  · rfl
  · exact absurd (same'.symm.trans same) (not_agree_firstRows bottom more inside)

/-- A grid without duplicates is kept as a whole. -/
theorem firstRows_self (top : b.top = 0) (bottom : b.bottom + 1 = g.length)
    (first : ∀ i < g.length, b.IsFirst g i) : b.firstRows g = g := by
  have all : b.firsts g = List.range' b.top (b.bottom + 1 - b.top) := by
    rw [firsts, List.filter_eq_self]
    intro i hi
    rw [List.mem_range'_1] at hi
    exact decide_eq_true (first i (by omega))
  rw [firstRows, all, ← span_eq_filterMap, span, top, List.drop_zero, Nat.sub_zero, bottom,
    List.take_length]

end Firsts

section Inside

variable {headers : List Text}

theorem Inside.distinctRows_rows (inside : b.Inside g headers) (even : g.Even headers.length)
    (clean : ∀ row ∈ g, ∀ c ∈ row, c.Clean) : distinctRows b (b.rows g) [] = b.firstRows g := by
  obtain ⟨rows, bottom, -, right⟩ := inside
  rw [Block.rows, span_eq_filterMap, distinctRows_eq even right clean (by omega)]
  rfl

/-- The first row of a block is kept. -/
theorem Inside.firstRows_pos (inside : b.Inside g headers) : 0 < (b.firstRows g).length := by
  rw [length_firstRows inside.bottom]
  refine List.length_pos_of_mem (a := b.top) (mem_firsts_iff.mpr ⟨⟨Nat.le_refl _, inside.rows⟩, ?_⟩)
  intro k below above
  omega

theorem length_firsts_le (b : Block) (g : Grid) :
    (b.firsts g).length ≤ b.bottom + 1 - b.top := by
  have most := List.length_filter_le (fun i => decide (b.IsFirst g i))
    (List.range' b.top (b.bottom + 1 - b.top))
  rwa [List.length_range'] at most

end Inside

end Block

theorem RangeReference.writable_of_parse {t : Text} {r : RangeReference}
    (h : RangeReference.parse t = .ok r) : r.start.Writable ∧ r.stop.Writable := by
  rw [RangeReference.parse] at h
  split at h
  · obtain ⟨start, hstart, h⟩ := bind_eq_ok_iff.mp h
    obtain ⟨stop, hstop, h⟩ := bind_eq_ok_iff.mp h
    cases h
    exact ⟨Reference.writable_of_parse hstart, Reference.writable_of_parse hstop⟩
  · cases h

namespace Function

/-- Removing duplicates from a range in order answers with the whole rows of the range that agree
with no earlier one, in order, a number agreeing with the same number only and never with a text.
Each row of the range agrees with one of them, and over the same columns they are answered as they
are. -/
theorem removeDuplicates_firstRows (grid : Grid) (headers : List Text) (range : Text) (b : Block)
    (resolved : Block.resolve grid headers range = .ok b) (inside : b.Inside grid headers)
    (even : grid.Even headers.length) (clean : ∀ row ∈ grid, ∀ c ∈ row, c.Clean) :
    let out := b.firstRows grid
    let again : Block := { b with top := 0, bottom := out.length - 1 }
    (∀ rest, removeDuplicates.call grid headers (range :: rest) = .ok (.rows out)) ∧
    (∀ i, b.top ≤ i → i ≤ b.bottom → ∃! k, k < out.length ∧ b.Agree grid i out k) ∧
    (∃ range', Block.resolve out headers range' = .ok again) ∧
    ∀ range' rest, Block.resolve out headers range' = .ok again →
      removeDuplicates.call out headers (range' :: rest) = .ok (.rows out) := by
  intro out again
  have some := inside.firstRows_pos
  have members : ∀ row ∈ out, row ∈ grid := by
    intro row hrow
    obtain ⟨i, -, hi⟩ := List.mem_filterMap.mp hrow
    exact List.mem_of_getElem? hi
  have inside' : again.Inside out headers :=
    ⟨Nat.zero_le _, Nat.sub_lt some Nat.one_pos, inside.cols, inside.right⟩
  refine ⟨fun rest => ?_, fun i => Block.existsUnique_firstRows inside.bottom, ?_,
    fun range' rest resolved' => ?_⟩
  · rw [call_removeDuplicates, resolved, Except.map, inside.distinctRows_rows even clean]
  · obtain ⟨r, parsed, covered⟩ := bind_eq_ok_iff.mp resolved
    obtain ⟨start, stop, top, bottom, -⟩ := Block.ofRange_eq_ok_iff.mp covered
    obtain ⟨hstart, hstop⟩ := RangeReference.writable_of_parse parsed
    have most := Block.length_firsts_le b grid
    rw [← Block.length_firstRows inside.bottom] at most
    have size : r.stop.row + 1 < sizeBound := hstop.size
    have one_lt : 0 + 1 < sizeBound := by decide
    have first : Address.Writable ⟨0, r.start.col⟩ := ⟨hstart.upper, hstart.labelled, one_lt⟩
    have last : Address.Writable ⟨out.length - 1, r.stop.col⟩ := by
      refine ⟨hstop.upper, hstop.labelled, ?_⟩
      change (b.firstRows grid).length - 1 + 1 < sizeBound
      omega
    exact ⟨_, Formula.resolve_rangeText first last start stop inside'.bottom⟩
  · have kept : again.firstRows out = out := by
      refine Block.firstRows_self rfl (Nat.sub_add_cancel some) fun i hi k below _ => ?_
      exact Block.not_agree_firstRows inside.bottom below hi
    rw [call_removeDuplicates, resolved', Except.map, inside'.distinctRows_rows
      (fun row hrow => even row (members row hrow))
      (fun row hrow => clean row (members row hrow)), kept]

/-- Two rows with the same number, and one with the text of that number between them. -/
theorem thirdRow_removed :
    let grid : Grid := [[.number 1, .text "tea".toList], [.text ['1'], .empty],
      [.number 1, .text "milk".toList]]
    let headers := Column.labels 2
    let out : Grid := [[.number 1, .text "tea".toList], [.text ['1'], .empty]]
    removeDuplicates.call grid headers ["A1:A3".toList] = .ok (.rows out) ∧
      removeDuplicates.call out headers ["A1:A2".toList] = .ok (.rows out) := by
  intro grid headers out
  obtain ⟨answer, -, -, again⟩ := removeDuplicates_firstRows grid headers "A1:A3".toList
    ⟨0, 2, 0, 0⟩ (by decide) ⟨by decide, by decide, by decide, by decide⟩
    (by change ∀ row ∈ grid, row.length = 2; decide) (by decide)
  exact ⟨answer [], again "A1:A2".toList [] (by decide)⟩

end Function

end Spreadsheet

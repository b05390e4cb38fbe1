import Mathlib.Data.List.ProdSigma
import Spreadsheet.Proofs.FiniteNumbers
import Spreadsheet.Proofs.SortedNumbers
import Spreadsheet.Proofs.ReadCells
import Spreadsheet.Proofs.MovedBlocks

/-!
# Numbers that are entered

A cell of the number kind accepts an optional hyphen and digits with an optional point. With a digit
among them this is the text of a number from end to end, so an aggregate counts it for all it says.
The entry changes what one position counts for: what a range comes to afterwards is found from its
positions in order, with the new number at this one and the old numbers at the others.
-/

namespace Spreadsheet

open Text

namespace Text

variable {t : Text}

theorem trimStart_of_filled (filled : ∀ c ∈ t, isBlank c = false) : t.trimStart = t :=
  Stops.dropWhile_eq_self fun c first => filled c (List.mem_of_head? first)

theorem trim_of_filled (filled : ∀ c ∈ t, isBlank c = false) : t.trim = t :=
  trim_eq_self (fun c first => filled c (List.mem_of_head? first)) fun c last =>
    filled c (List.mem_reverse.mp (List.mem_of_head? last))

end Text

namespace Numeral

theorem isNaN_value (n : Numeral) : n.value.isNaN = false := by
  have magnitude : n.magnitude.isNaN = false := by
    simp only [Numeral.magnitude]
    split
    · exact Binary64.isNaN_nearest 0 1
    · split
      · decide +kernel
      · exact Binary64.isNaN_nearest _ _
  rw [value]
  split
  · exact Binary64.isNaN_neg magnitude
  · exact magnitude

/-- A number counts unless it is infinite. -/
theorem finiteValue?_eq (n : Numeral) :
    n.finiteValue? = if n.value.isInf = true then none else some n.value := by
  rw [finiteValue?]
  cases infinite : n.value.isInf with
  | true => rw [Binary64.isFinite_of_isInf infinite, if_pos rfl, if_neg Bool.false_ne_true]
  | false =>
    rw [Binary64.isFinite_of_not n.isNaN_value infinite, if_pos rfl, if_neg Bool.false_ne_true]

/-- The text of a number without an exponent, with a digit or without. -/
structure Form.Plain (f : Form) : Prop where
  whole : ∀ c ∈ f.whole, c.isDigit = true
  fraction : ∀ c ∈ f.fraction, c.isDigit = true
  power : f.power? = none

section Plain

variable {f : Form}

theorem Form.Plain.mem_toText (plain : f.Plain) {c : Char} (h : c ∈ f.toText) :
    c ∈ f.whole ∨ c ∈ f.fraction ∨ c = '+' ∨ c = '-' ∨ c = '.' := by
  rw [Form.toText, plain.power] at h
  simp only [List.mem_append] at h
  rcases h with sign | whole | fraction | power
  · right; right
    rcases h : f.minus? with _ | _ | _ <;> rw [h] at sign
    · cases sign
    · exact .inl (List.mem_singleton.mp sign)
    · exact .inr (.inl (List.mem_singleton.mp sign))
  · exact .inl whole
  · right
    rw [Form.fraction]
    cases h : f.fraction? with
    | none => rw [h] at fraction; cases fraction
    | some digits =>
      rw [h] at fraction
      rcases List.mem_cons.mp fraction with point | digit
      · exact .inr (.inr (.inr point))
      · exact .inl digit
  · cases power

theorem Form.Plain.visible (plain : f.Plain) {c : Char} (h : c ∈ f.toText) :
    33 ≤ c.toNat ∧ c.toNat ≤ 58 := by
  rcases plain.mem_toText h with whole | fraction | rfl | rfl | rfl
  · have := isDigit_iff.mp (plain.whole c whole)
    omega
  · have := isDigit_iff.mp (plain.fraction c fraction)
    omega
  all_goals decide

/-- With a digit it is a number. -/
theorem Form.Plain.proper (plain : f.Plain) (digit : ∃ c ∈ f.toText, c.isDigit = true) :
    f.Proper := by
  refine ⟨⟨plain.whole, plain.fraction, fun none none' => ?_⟩, ?_⟩
  · obtain ⟨c, hc, decimal⟩ := digit
    rcases plain.mem_toText hc with whole | fraction | rfl | rfl | rfl
    · rw [none] at whole
      cases whole
    · rw [none'] at fraction
      cases fraction
    all_goals cases decimal
  · rw [plain.power]
    nofun

end Plain

end Numeral

namespace CellKind

variable {t : Text}

/-- What is accepted as a number has the form of one, though maybe no digit. -/
theorem exists_plain_of_isNumberEntry (accepted : isNumberEntry t = true) :
    ∃ f : Numeral.Form, f.Plain ∧ t = f.toText := by
  -- an optional hyphen and the rest
  obtain ⟨minus?, unsigned, shape, rest⟩ : ∃ minus? unsigned,
      t = Numeral.signText minus? ++ unsigned ∧
        (if t.head? = some '-' then t.drop 1 else t) = unsigned := by
    split
    · rename_i hyphen
      obtain ⟨rest, rfl⟩ := List.head?_eq_some_iff.mp hyphen
      exact ⟨some true, rest, rfl, rfl⟩
    · exact ⟨none, t, rfl, rfl⟩
  have whole : ∀ c ∈ unsigned.takeWhile Char.isDigit, c.isDigit = true := fun c hc =>
    List.mem_takeWhile_imp hc
  have digits : unsigned.takeWhile Char.isDigit ++ unsigned.dropWhile Char.isDigit = unsigned :=
    List.takeWhile_append_dropWhile
  rw [isNumberEntry, rest] at accepted
  split at accepted
  · rename_i ends
    rw [ends] at digits
    refine ⟨⟨minus?, unsigned.takeWhile Char.isDigit, none, none⟩, ⟨whole, nofun, rfl⟩, ?_⟩
    exact shape.trans (congrArg (_ ++ ·) digits.symm)
  · rename_i fraction point
    rw [point] at digits
    refine ⟨⟨minus?, unsigned.takeWhile Char.isDigit, some fraction, none⟩,
      ⟨whole, List.all_eq_true.mp accepted, rfl⟩, ?_⟩
    rw [shape, Numeral.Form.toText]
    simp [Numeral.fractionText, Numeral.powerText, digits]
  · cases accepted

end CellKind

/-- The positions of a block, row by row. -/
def Block.positions (b : Block) : List (Nat × Nat) :=
  List.range' b.top (b.bottom + 1 - b.top) ×ˢ List.range' b.left (b.right + 1 - b.left)

/-- The numbers at some positions of a grid, in their order. -/
def Grid.numbersAt (g : Grid) (positions : List (Nat × Nat)) : List Float :=
  positions.filterMap fun p => g.number? p.1 p.2

section Positions

variable {b : Block} {g : Grid} {row col : Nat}

theorem Block.mem_positions : (row, col) ∈ b.positions ↔ b.contains row col = true := by
  rw [positions, List.mem_product, List.mem_range'_1, List.mem_range'_1, contains_iff]
  omega

theorem Block.nodup_positions (b : Block) : b.positions.Nodup :=
  List.Nodup.product List.nodup_range' List.nodup_range'

theorem Block.values_eq_numbersAt (b : Block) (g : Grid) :
    b.values g = g.numbersAt b.positions := by
  change _ = (List.product _ _).filterMap _
  rw [values_eq_numbers, Grid.numbers, List.product, List.filterMap_flatMap]
  simp only [List.filterMap_map]
  rfl

theorem Grid.numbersAt_append (g : Grid) (ps qs : List (Nat × Nat)) :
    g.numbersAt (ps ++ qs) = g.numbersAt ps ++ g.numbersAt qs :=
  List.filterMap_append

theorem Grid.numbersAt_cons (g : Grid) (row col : Nat) (ps : List (Nat × Nat)) :
    g.numbersAt ((row, col) :: ps) = (g.number? row col).toList ++ g.numbersAt ps := by
  rw [numbersAt, List.filterMap_cons]
  cases g.number? row col <;> rfl

/-- A block over a position has it once. -/
theorem Block.exists_positions (here : b.contains row col = true) : ∃ ahead behind,
    b.positions = ahead ++ (row, col) :: behind ∧ (row, col) ∉ ahead ++ behind := by
  obtain ⟨ahead, behind, shape⟩ := List.append_of_mem (mem_positions.mpr here)
  refine ⟨ahead, behind, shape, ?_⟩
  have once := b.nodup_positions
  rw [shape, List.nodup_middle] at once
  exact (List.nodup_cons.mp once).1

theorem Grid.number?_setCell_of_ne {i j : Nat} (apart : (i, j) ≠ (row, col)) (c : Cell) :
    (g.setCell row col c).number? i j = g.number? i j := by
  have kept : ¬(i = row ∧ j = col) := fun same => apart (Prod.ext same.1 same.2)
  rw [Grid.number?, setCell, cell?_mapCells, number?]
  simp only [if_neg kept, Option.map_id']

theorem Grid.numbersAt_setCell {ps : List (Nat × Nat)} (apart : (row, col) ∉ ps) (c : Cell) :
    (g.setCell row col c).numbersAt ps = g.numbersAt ps := by
  refine List.filterMap_congr fun p hp => Grid.number?_setCell_of_ne ?_ c
  intro same
  exact apart (same ▸ hp)

end Positions

namespace CellKind

section Accepted

variable {t : Text} (accepted : refusal? .number t = none) (digit : ∃ c ∈ t, c.isDigit = true)

include accepted digit

theorem exists_plain_of_accepted : ∃ f : Numeral.Form, f.Plain ∧ t = f.toText := by
  have some : t ≠ [] := by
    rintro rfl
    obtain ⟨c, hc, -⟩ := digit
    cases hc
  rw [refusal?, if_neg some] at accepted
  split at accepted
  · exact exists_plain_of_isNumberEntry ‹_›
  · cases accepted

/-- What is accepted as a number and has a digit is a number. -/
theorem isText_of_accepted : Numeral.IsText t := by
  obtain ⟨f, plain, rfl⟩ := exists_plain_of_accepted accepted digit
  exact ⟨f, plain.proper digit, rfl⟩

theorem filled_of_accepted : ∀ c ∈ t, isBlank c = false := by
  obtain ⟨f, plain, rfl⟩ := exists_plain_of_accepted accepted digit
  intro c hc
  have visible := plain.visible hc
  exact not_isBlank_of_visible (by omega)

theorem isFormulaText_of_accepted : Cell.isFormulaText t = false := by
  obtain ⟨f, plain, rfl⟩ := exists_plain_of_accepted accepted digit
  rw [Cell.isFormulaText, beq_eq_false_iff_ne]
  intro first
  have visible := plain.visible (List.mem_of_head? first)
  exact absurd visible.2 (by decide)

/-- It counts as the number that it is, not only as one that it begins with. -/
theorem numericValue?_of_accepted {n : Numeral} (read : Numeral.read? t = some n) :
    (Cell.text t).numericValue? = if n.value.isInf = true then none else some n.value := by
  rw [Cell.numericValue?_text (isFormulaText_of_accepted accepted digit),
    trimStart_of_filled (filled_of_accepted accepted digit), Number.leading?_of_read? read,
    n.finiteValue?_eq]

end Accepted

end CellKind

namespace Editor

/-- An aggregate over a position counts some numbers there, once, and at the other positions what
stood there before. -/
def Counts (e e' : Editor) (row col : Nat) (there : List Float) : Prop :=
  ∀ range b, Block.resolve e'.sheet.rows e'.sheet.headers range = .ok b →
    b.contains row col = true →
    ∃ ahead behind, b.positions = ahead ++ (row, col) :: behind ∧ (row, col) ∉ ahead ++ behind ∧
      ∀ (f : Function) (answer : List Float → Float) (rest : List Text),
        f.aggregate? = some answer →
        f.call e'.sheet.rows e'.sheet.headers (range :: rest) = .ok (.number (answer
          (e.sheet.rows.numbersAt ahead ++ there ++ e.sheet.rows.numbersAt behind)))

section Commit

variable {e e' : Editor} {a : Address} {entered : Text}

theorem Valid.sheet_commit (valid : e.Valid) (h : e.commit a entered = .ok e') :
    ∃ row col, e.sheet.position? a = some (row, col) ∧
      e'.sheet = { e.sheet with
        rows := e.sheet.rows.setCell row col (Cell.ofText entered.trim) } := by
  obtain ⟨written, hw, rfl⟩ := commit_eq_ok h
  obtain ⟨row, col, place, rfl⟩ := write_eq_ok hw
  refine ⟨row, col, ?_, valid.workbook.sheet_setSheet _⟩
  rw [Sheet.position?, place]
  rfl

theorem Valid.counts_commit (valid : e.Valid) (h : e.commit a entered = .ok e') :
    ∃ row col, e'.sheet.position? a = some (row, col) ∧
      e'.sheet.find? a = some (Cell.ofText entered.trim) ∧
      Counts e e' row col (Cell.ofText entered.trim).numericValue?.toList := by
  obtain ⟨row, col, place, sheet⟩ := valid.sheet_commit h
  obtain ⟨-, hrow, hcol⟩ := Sheet.position?_eq_some place
  obtain ⟨old, here⟩ :=
    Grid.exists_cell? (sheet_sound valid.workbook).even hrow (Sheet.column?_lt hcol)
  have place' : e'.sheet.position? a = some (row, col) := by
    rw [sheet, Sheet.position?_withRows _ (Grid.length_eq_of_shape (Grid.shape_setCell _ _ _ _))]
    exact place
  have now : e'.sheet.rows.cell? row col = some (Cell.ofText entered.trim) := by
    rw [sheet, Grid.setCell, Grid.cell?_mapCells, here, Option.map_some, if_pos ⟨rfl, rfl⟩]
  have others : ∀ ps, (row, col) ∉ ps → e'.sheet.rows.numbersAt ps = e.sheet.rows.numbersAt ps := by
    intro ps apart
    rw [sheet]
    exact Grid.numbersAt_setCell apart _
  refine ⟨row, col, place', (Sheet.find?_of_position? place').trans now, ?_⟩
  intro range b resolved inside
  obtain ⟨ahead, behind, shape, once⟩ := Block.exists_positions inside
  refine ⟨ahead, behind, shape, once, fun f answer rest answers => ?_⟩
  rw [List.mem_append, not_or] at once
  have values : b.values e'.sheet.rows = e.sheet.rows.numbersAt ahead ++
      (Cell.ofText entered.trim).numericValue?.toList ++ e.sheet.rows.numbersAt behind := by
    rw [Block.values_eq_numbersAt, shape, Grid.numbersAt_append, Grid.numbersAt_cons,
      Grid.number?, now, Option.bind_some, others ahead once.1, others behind once.2,
      List.append_assoc]
  rw [Function.call_of_aggregate?_cons answers, resolved, ← values]
  rfl

end Commit

/-- A text that the number kind accepts and that has a digit is a number from end to end. Committed
to any cell of any reachable editor it counts there in full, and nothing else counts otherwise; a
number beyond the range of finite ones counts as nothing. -/
theorem run_number_counted {t : Text} (accepted : CellKind.refusal? .number t = none)
    (digit : ∃ c ∈ t, c.isDigit = true) :
    t.trim = t ∧ Numeral.Leads t.trimStart t ∧
    ∃ x, Number.read? t = some x ∧
      (Cell.text t).numericValue? = (if x.isInf = true then none else some x) ∧
      ∀ (c : Config) (store : Store) (actions : List Action) (a : Address) (entered : Text)
        (e' : Editor), entered.trim = t →
        ((start c store).run actions).commit a entered = .ok e' →
        ∃ row col, e'.sheet.position? a = some (row, col) ∧ e'.sheet.find? a = some (.text t) ∧
          Counts ((start c store).run actions) e' row col (if x.isInf = true then [] else [x]) := by
  have filled := CellKind.filled_of_accepted accepted digit
  have number := CellKind.isText_of_accepted accepted digit
  obtain ⟨n, read⟩ := Numeral.isText_iff.mp number
  have counted := CellKind.numericValue?_of_accepted accepted digit read
  have held : Cell.ofText t = .text t := by
    refine if_neg ?_
    rintro rfl
    obtain ⟨c, hc, -⟩ := digit
    cases hc
  refine ⟨trim_of_filled filled, (trimStart_of_filled filled).symm ▸ number.leads_self, n.value,
    Number.read?_of_numeral read, counted, ?_⟩
  intro c store actions a entered e' trimmed committed
  have entry := (valid_run c store actions).counts_commit committed
  rw [trimmed, held, counted] at entry
  obtain ⟨row, col, place, here, counts⟩ := entry
  refine ⟨row, col, place, here, ?_⟩
  split at counts <;> rename_i infinite
  · rwa [if_pos infinite]
  · rwa [if_neg infinite]

/-- A number that ends with its point is entered beside two kilograms. -/
theorem pointAtEnd_counted :
    let e := (start ⟨1, 2, 1, 300⟩ ⟨.file, .nothing, true, true, 0⟩).run
      [.write ⟨0, ['B']⟩ "2 kg".toList]
    ∃ e', e.commit ⟨0, ['A']⟩ " -7. ".toList = .ok e' ∧
      Function.sum.call e'.sheet.rows e'.sheet.headers ["A1:B1".toList] = .ok (.number (-5)) := by
  intro e
  refine ⟨_, rfl, ?_⟩
  obtain ⟨-, -, x, read, -, counted⟩ :=
    run_number_counted (t := "-7.".toList) (by decide) ⟨'7', by decide, by decide⟩
  obtain rfl : (-7 : Float) = x := Option.some.inj (Eq.trans (by decide +kernel) read)
  obtain ⟨row, col, place, -, counts⟩ := counted ⟨1, 2, 1, 300⟩ ⟨.file, .nothing, true, true, 0⟩
    [.write ⟨0, ['B']⟩ "2 kg".toList] ⟨0, ['A']⟩ " -7. ".toList _ (by decide) rfl
  obtain ⟨rfl, rfl⟩ : 0 = row ∧ 0 = col := by
    cases place
    exact ⟨rfl, rfl⟩
  obtain ⟨ahead, behind, shape, once, call⟩ := counts "A1:B1".toList ⟨0, 0, 0, 1⟩ (by decide) rfl
  have first : ahead = [] := by
    cases ahead with
    | nil => rfl
    | cons p rest =>
      cases (List.cons.inj shape).1
      exact absurd List.mem_cons_self once
  subst first
  cases (List.cons.inj shape).2
  rw [call .sum _ [] rfl]
  decide +kernel

/-- Without a digit an entry may be accepted that counts as nothing. -/
example : CellKind.refusal? .number "-.".toList = none ∧
    (Cell.text "-.".toList).numericValue? = none := by
  decide

end Editor

end Spreadsheet

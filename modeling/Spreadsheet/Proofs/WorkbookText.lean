import Spreadsheet.Proofs.StoredNumbers
import Spreadsheet.Workbook

/-!
# Workbooks as they are written

Every part of a workbook is read back from what is written for it, as long as its cells can be told
apart in the text, its ids and its active index fit their widths, and its numbers are read back.
-/

namespace Spreadsheet

/-- What is turned into another form and back, piece by piece, is itself again. -/
theorem mapM_map {α β : Type} {put : α → β} {get? : β → Option α} {l : List α}
    (back : ∀ a ∈ l, get? (put a) = some a) : (l.map put).mapM get? = some l := by
  induction l with
  | nil => rfl
  | cons a l ih =>
    have rest := ih fun b hb => back b (List.mem_cons_of_mem a hb)
    rw [List.map_cons, List.mapM_cons, back a List.mem_cons_self, rest]
    rfl

/-- Whether a cell is read back from what is stored for it. An empty text would come back as an
empty cell, and so would what is no finite number. -/
def Cell.Storable : Cell → Prop
  | .empty => True
  | .number x => x.isFinite = true ∧ Number.ReadsBack x
  | .text t => t ≠ []

theorem Cell.Storable.clean {c : Cell} (h : c.Storable) : c.Clean := by
  cases c with
  | empty => trivial
  | number x => exact h.1
  | text t => exact h

theorem Cell.ofJson?_toJson {c : Cell} (h : c.Storable) : ofJson? c.toJson = some c := by
  cases c with
  | empty => rfl
  | number x =>
    rw [toJson_number h.1, ofJson?, h.2.toFloat? h.1]
    rfl
  | text t =>
    rw [toJson, ofJson?, ofText, if_neg h]

structure Sheet.Storable (s : Sheet) : Prop where
  id : s.id < Sheet.idBound
  cells : ∀ row ∈ s.rows, ∀ c ∈ row, c.Storable

theorem Sheet.exact_toJson {s : Sheet} (h : s.Storable) : s.toJson.Exact := by
  have header (j : Json) (hj : j ∈ s.headers.map .text) : j.Exact := by
    obtain ⟨t, -, rfl⟩ := List.mem_map.mp hj
    exact .text t
  have row (j : Json) (hj : j ∈ s.rows.map fun row => .array (row.map Cell.toJson)) : j.Exact := by
    obtain ⟨row, hrow, rfl⟩ := List.mem_map.mp hj
    refine .array fun j hj => ?_
    obtain ⟨c, hc, rfl⟩ := List.mem_map.mp hj
    exact (h.cells row hrow c hc).clean.exact_toJson
  refine .object fun m hm => ?_
  simp only [List.mem_cons, List.not_mem_nil, or_false] at hm
  rcases hm with rfl | rfl | rfl | rfl
  · exact .text s.name
  · exact .number (Json.isLiteral_ofNat s.id)
  · exact .array header
  · exact .array row

theorem Sheet.ofJson?_toJson {s : Sheet} (h : s.Storable) : ofJson? s.toJson = some s := by
  have fields : Json.fields? [nameField, idField, headersField, rowsField] s.toJson =
      some [.text s.name, .ofNat s.id, .array (s.headers.map .text),
        .array (s.rows.map fun row => .array (row.map Cell.toJson))] := rfl
  have id : (Json.ofNat s.id).toNat? (idBound - 1) = some s.id :=
    Json.toNat?_ofNat (Nat.le_sub_one_of_lt h.id)
  have headers : (s.headers.map Json.text).mapM Json.text? = some s.headers :=
    mapM_map fun _ _ => rfl
  have rows : (s.rows.map fun row => Json.array (row.map Cell.toJson)).mapM
      (fun row => row.elements?.bind fun items => items.mapM Cell.ofJson?) = some s.rows :=
    mapM_map fun row hrow => mapM_map fun c hc => Cell.ofJson?_toJson (h.cells row hrow c hc)
  rw [ofJson?, fields]
  simp only [Json.elements?] at rows
  simp only [Json.text?, Json.elements?, Option.bind_eq_bind, Option.bind_some, id, headers, rows]
  rfl

structure Workbook.Storable (w : Workbook) : Prop where
  sheets : ∀ s ∈ w.sheets, s.Storable
  active : w.active < sizeBound

theorem Workbook.exact_toJson {w : Workbook} (h : w.Storable) : w.toJson.Exact := by
  have sheet (j : Json) (hj : j ∈ w.sheets.map Sheet.toJson) : j.Exact := by
    obtain ⟨s, hs, rfl⟩ := List.mem_map.mp hj
    exact Sheet.exact_toJson (h.sheets s hs)
  refine .object fun m hm => ?_
  simp only [List.mem_cons, List.not_mem_nil, or_false] at hm
  rcases hm with rfl | rfl
  · exact .array sheet
  · exact .number (Json.isLiteral_ofNat w.active)

theorem Workbook.ofJson?_toJson {w : Workbook} (h : w.Storable) : ofJson? w.toJson = some w := by
  have fields : Json.fields? [sheetsField, activeField] w.toJson =
      some [.array (w.sheets.map Sheet.toJson), .ofNat w.active] := rfl
  have sheets : (w.sheets.map Sheet.toJson).mapM Sheet.ofJson? = some w.sheets :=
    mapM_map fun s hs => Sheet.ofJson?_toJson (h.sheets s hs)
  have active : (Json.ofNat w.active).toNat? (sizeBound - 1) = some w.active :=
    Json.toNat?_ofNat (Nat.le_sub_one_of_lt h.active)
  rw [ofJson?, fields]
  simp [Json.elements?, sheets, active]

/-- A workbook is read back from its text. -/
theorem Workbook.parse_print {w : Workbook} (h : w.Storable) : parse w.print = .ok w := by
  rw [parse, print, (exact_toJson h).parse?_render, Option.bind_some, ofJson?_toJson h]

end Spreadsheet

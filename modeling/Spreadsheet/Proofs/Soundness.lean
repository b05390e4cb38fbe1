import Spreadsheet.Proofs.ColumnLabels
import Spreadsheet.Proofs.GridShape
import Spreadsheet.Sheet.Layout
import Spreadsheet.Workbook

/-!
# Sound workbooks

The check for defects goes through a workbook in order and stops at the first. Said without the
check, a sheet is sound when it has a name, has columns, repeats no header, and has rows as wide as
its headers; a workbook is sound when its sheets are and the active one is among them. The check
finds nothing exactly in sound workbooks.
-/

namespace Spreadsheet

structure Sheet.Sound (s : Sheet) : Prop where
  named : s.name.trim ≠ []
  headed : s.headers ≠ []
  distinct : s.headers.Nodup
  even : Grid.Even s.width s.rows

structure Workbook.Sound (w : Workbook) : Prop where
  sheets : ∀ s ∈ w.sheets, s.Sound
  active : w.active < w.sheets.length

namespace Sheet

theorem firstRepeated?_go_cons (seen : List Text) (label : Text) (rest : List Text) :
    firstRepeated?.go seen (label :: rest) =
      if label ∈ seen then some label else firstRepeated?.go (label :: seen) rest :=
  rfl

theorem firstRepeated?_go_eq_none_iff (seen labels : List Text) :
    firstRepeated?.go seen labels = none ↔ labels.Nodup ∧ ∀ label ∈ labels, label ∉ seen := by
  induction labels generalizing seen with
  | nil =>
    have found : firstRepeated?.go seen [] = none := rfl
    simp [found]
  | cons label rest ih =>
    rw [firstRepeated?_go_cons]
    split
    · rename_i repeated
      simp [repeated]
    · rename_i new
      rw [ih, List.nodup_cons]
      constructor
      · rintro ⟨distinct, apart⟩
        refine ⟨⟨fun again => apart label again List.mem_cons_self, distinct⟩, ?_⟩
        intro x hx
        rcases List.mem_cons.mp hx with rfl | hx
        · exact new
        · exact fun old => apart x hx (List.mem_cons_of_mem _ old)
      · rintro ⟨⟨once, distinct⟩, apart⟩
        refine ⟨distinct, fun x hx old => ?_⟩
        rcases List.mem_cons.mp old with rfl | old
        · exact once hx
        · exact apart x (List.mem_cons_of_mem _ hx) old

theorem firstRepeated?_eq_none_iff (labels : List Text) :
    firstRepeated? labels = none ↔ labels.Nodup := by
  rw [firstRepeated?, firstRepeated?_go_eq_none_iff]
  simp

theorem unevenRow?_eq_none_iff (s : Sheet) :
    (s.rows.zipIdx.find? fun (row, _) => row.length ≠ s.width) = none ↔
      Grid.Even s.width s.rows := by
  rw [List.find?_eq_none]
  constructor
  · intro none row hrow
    obtain ⟨i, hi, rfl⟩ := List.mem_iff_getElem.mp hrow
    have checked := none (s.rows[i], i)
      (List.mk_mem_zipIdx_iff_getElem?.mpr (List.getElem?_eq_getElem hi))
    simpa using checked
  · rintro even ⟨row, i⟩ hrow
    have member := List.mem_of_getElem? (List.mk_mem_zipIdx_iff_getElem?.mp hrow)
    simp [even row member]

theorem defect?_eq_none_iff (s : Sheet) : s.defect? = none ↔ s.Sound := by
  have labels := firstRepeated?_eq_none_iff s.headers
  have rows := s.unevenRow?_eq_none_iff
  constructor
  · intro clean
    simp only [defect?] at clean
    split at clean
    · cases clean
    · rename_i named
      split at clean
      · cases clean
      · rename_i headed
        split at clean
        · cases clean
        · rename_i distinct
          exact ⟨named, headed, labels.mp distinct, rows.mp (Option.map_eq_none_iff.mp clean)⟩
  · rintro ⟨named, headed, distinct, even⟩
    simp only [defect?, if_neg named, if_neg headed, labels.mpr distinct]
    exact Option.map_eq_none_iff.mpr (rows.mpr even)

/-- Other rows of the same lengths leave a sheet sound. -/
theorem Sound.withRows {s : Sheet} (sound : s.Sound) {rows : Grid}
    (same : rows.shape = Grid.shape s.rows) : ({ s with rows := rows } : Sheet).Sound :=
  ⟨sound.named, sound.headed, sound.distinct, sound.even.of_shape same⟩

/-- Fewer or reordered rows leave a sheet sound. -/
theorem Sound.ofRows {s : Sheet} (sound : s.Sound) {rows : Grid}
    (old : ∀ row ∈ rows, row ∈ s.rows) : ({ s with rows := rows } : Sheet).Sound :=
  ⟨sound.named, sound.headed, sound.distinct, fun row hrow => sound.even row (old row hrow)⟩

/-- Under generated headers a sheet is sound once it has columns and its rows fit them. -/
theorem Sound.withColumns {s : Sheet} (sound : s.Sound) {width : Nat} {rows : Grid}
    (some : 0 < width) (even : Grid.Even width rows) : (s.withColumns width rows).Sound where
  named := sound.named
  headed := by
    intro empty
    have lengths := congrArg List.length (show Column.labels width = [] from empty)
    rw [Column.length_labels, List.length_nil] at lengths
    omega
  distinct := Column.labels_nodup width
  even := by
    intro row hrow
    exact (even row hrow).trans (Column.length_labels width).symm

theorem sound_blank {name : Text} (named : name.trim ≠ []) (id height : Nat) {width : Nat}
    (some : 0 < width) : (blank name id height width).Sound where
  named := named
  headed := by
    intro empty
    have lengths := congrArg List.length (show Column.labels width = [] from empty)
    rw [Column.length_labels, List.length_nil] at lengths
    omega
  distinct := Column.labels_nodup width
  even := by
    intro row hrow
    have blank := (List.mem_replicate.mp hrow).2
    rw [blank, List.length_replicate]
    exact (Column.length_labels width).symm

end Sheet

namespace Workbook

theorem defect?_eq_none_iff (w : Workbook) : w.defect? = none ↔ w.Sound := by
  constructor
  · intro clean
    simp only [defect?] at clean
    split at clean
    · cases clean
    · split at clean
      · cases clean
      · rename_i sheets
        split at clean
        · rename_i active
          refine ⟨fun s hs => (Sheet.defect?_eq_none_iff s).mp ?_, active⟩
          exact List.findSome?_eq_none_iff.mp sheets s hs
        · cases clean
  · rintro ⟨sheets, active⟩
    have some : w.sheets ≠ [] := by
      intro empty
      simp [empty] at active
    have clean : w.sheets.findSome? Sheet.defect? = none :=
      List.findSome?_eq_none_iff.mpr fun s hs => (Sheet.defect?_eq_none_iff s).mpr (sheets s hs)
    simp [defect?, some, clean, active]

theorem checked_eq_ok_iff {w v : Workbook} : w.checked = .ok v ↔ v = w ∧ w.Sound := by
  rw [← defect?_eq_none_iff, checked]
  split
  · rename_i clean
    simp [clean, eq_comm]
  · rename_i defect found
    simp [found]

theorem numberedName_trim_ne_nil (n : Nat) : (numberedName n).trim ≠ [] := by
  have start : numberedName n = 'S' :: ("heet ".toList ++ Text.ofNat n) := rfl
  have kept : 'S' ∈ (numberedName n).trim := by
    rw [start, Text.trim, Text.trimStart, List.dropWhile_cons_of_neg (by decide), Text.trimEnd,
      List.mem_reverse, List.reverse_cons, List.dropWhile_append]
    split
    · simp [List.dropWhile, isBlank]
    · simp
  intro empty
  rw [empty] at kept
  cases kept

/-- The active sheet is one of the sheets. -/
theorem Sound.getElem?_active {w : Workbook} (sound : w.Sound) :
    w.sheets[w.active]? = some w.sheet := by
  rw [sheet, List.getD_eq_getElem?_getD, List.getElem?_eq_getElem sound.active]
  rfl

theorem Sound.sheet_sound {w : Workbook} (sound : w.Sound) : w.sheet.Sound :=
  sound.sheets _ (List.mem_of_getElem? sound.getElem?_active)

theorem Sound.sheet_setSheet {w : Workbook} (sound : w.Sound) (s : Sheet) :
    (w.setSheet s).sheet = s := by
  simp [setSheet, sheet, sound.active]

theorem Sound.setSheet {w : Workbook} (sound : w.Sound) {s : Sheet} (fresh : s.Sound) :
    (w.setSheet s).Sound where
  sheets := by
    intro t ht
    rcases List.mem_or_eq_of_mem_set ht with old | rfl
    · exact sound.sheets t old
    · exact fresh
  active := by
    simpa [Workbook.setSheet] using sound.active

end Workbook

end Spreadsheet

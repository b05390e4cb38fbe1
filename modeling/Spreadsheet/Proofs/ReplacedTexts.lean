import Spreadsheet.Proofs.GridShape
import Spreadsheet.Proofs.RangeLimits
import Spreadsheet.Proofs.SuccessiveMatches

/-!
# What a replacement changes

A text is cut at the matches of a pattern. A replacement puts other texts in the place of the
matches and leaves what stands between them, so it changes no text without a match. On a grid it
reaches the texts of a block and nothing else: no other cell, no length of a row, and no kind of
cell.
-/

namespace Spreadsheet

namespace Pattern

/-- What stands before the first match, from a position on, between the matches, and behind the last
one. -/
def gaps (t : Text) (position : Nat) : List Match → List Text
  | [] => [t.drop position]
  | m :: rest => slice t position m.start :: gaps t m.stop rest

/-- Texts with others between them. -/
def weave : List Text → List Text → Text
  | gap :: gaps, piece :: pieces => gap ++ piece ++ weave gaps pieces
  | gaps, _ => gaps.flatten

/-- A text with an expanded template in the place of each of the matches, which come one after the
other, and all that stands between them kept. -/
structure Replaced (template t : Text) (ms : List Match) (new : Text) : Prop where
  successive : Successive t.length 0 ms
  old_eq : t = weave (gaps t 0 ms) (ms.map fun m => slice t m.start m.stop)
  new_eq : new = weave (gaps t 0 ms) (ms.map fun m => Template.expand template (m.occurrence t))

section Texts

variable {t template : Text} {position : Nat} {ms : List Match}

theorem slice_append_drop (t : Text) {start stop : Nat} (order : start ≤ stop) :
    slice t start stop ++ t.drop stop = t.drop start := by
  have whole : (t.take stop ++ t.drop stop).drop start = t.drop start := by
    rw [List.take_append_drop]
  rw [List.drop_append, List.length_take] at whole
  by_cases inside : stop ≤ t.length
  · rw [← whole, show start - min stop t.length = 0 by omega, List.drop_zero]
    rfl
  · rw [← whole, List.drop_eq_nil_of_le (by omega : t.length ≤ stop), List.drop_nil]
    rfl

/-- The gaps and the matches make up the text. -/
theorem Successive.weave_gaps {length : Nat} (h : Successive length position ms) (t : Text) :
    weave (gaps t position ms) (ms.map fun m => slice t m.start m.stop) = t.drop position := by
  induction h with
  | nil position => exact List.append_nil _
  | cons first order inside h ih =>
    rw [gaps, List.map_cons, weave, ih, List.append_assoc, slice_append_drop t order,
      slice_append_drop t first]

theorem replaceMatches_eq_weave (t template : Text) (position : Nat) (ms : List Match) :
    replaceMatches t template position ms =
      weave (gaps t position ms) (ms.map fun m => Template.expand template (m.occurrence t)) := by
  induction ms generalizing position with
  | nil => exact (List.append_nil _).symm
  | cons m rest ih => rw [replaceMatches, gaps, List.map_cons, weave, ih]

theorem replaced_replaceAll {pattern : Text} {p : Program} (compiled : compile? pattern = some p)
    (template t : Text) : Replaced template t (p.matches t) (p.replaceAll template t) where
  successive := successive_matches compiled t
  old_eq := ((successive_matches compiled t).weave_gaps t).symm
  new_eq := replaceMatches_eq_weave t template 0 (p.matches t)

theorem Replaced.eq_of_nil {new : Text} (h : Replaced template t [] new) : new = t :=
  h.new_eq.trans h.old_eq.symm

end Texts

end Pattern

namespace Block

variable {grid : Grid} {b : Block} {row col : Nat}

theorem cell?_modify (b : Block) (f : Cell → Cell) (grid : Grid) (row col : Nat) :
    (b.modify f grid).cell? row col =
      (grid.cell? row col).map fun cell => if b.contains row col then f cell else cell := by
  rw [Grid.modify_eq_mapCells, Grid.cell?_mapCells]

/-- A block without positions. -/
theorem contains_of_reversed (reversed : b.bottom < b.top ∨ b.right < b.left) (row col : Nat) :
    b.contains row col = false := by
  rw [← Bool.not_eq_true, contains_iff]
  omega

/-- A replacement in a block changes only texts in it. -/
theorem text_of_changed {p : Pattern.Program} {template : Text}
    (changed : (b.modify (replaceInCell p template) grid).cell? row col ≠ grid.cell? row col) :
    b.contains row col = true ∧ ∃ t, grid.cell? row col = some (.text t) := by
  rw [cell?_modify] at changed
  cases here : grid.cell? row col with
  | none => exact absurd (by rw [here]; rfl) changed
  | some cell =>
    rw [here, Option.map_some] at changed
    by_cases inside : b.contains row col = true
    · rw [if_pos inside] at changed
      cases cell with
      | empty | number x => exact absurd rfl changed
      | text t => exact ⟨inside, t, rfl⟩
    · rw [if_neg inside] at changed
      exact absurd rfl changed

end Block

namespace Function

/-- With a range that covers a block and a pattern the replacement answers with rows. They are as
many as those of the grid and as long, and a position that holds something else than before is in
the block and held a text. A text in the block stays a text, in which each match is replaced with
its expanded template and all between the matches is kept; without a match it is as it was. A block
without positions leaves the grid as it is. -/
theorem findAndReplace_frame (grid : Grid) (headers : List Text) (range find template : Text)
    (b : Block) (p : Pattern.Program) (resolved : Block.resolve grid headers range = .ok b)
    (compiled : Pattern.compile? (unquote find) = some p) :
    ∃ out : Grid, findAndReplace.call grid headers [range, find, template] = .ok (.rows out) ∧
      out.shape = grid.shape ∧
      (∀ row col, out.cell? row col ≠ grid.cell? row col →
        b.contains row col = true ∧ ∃ t, grid.cell? row col = some (.text t)) ∧
      (∀ row col t, b.contains row col = true → grid.cell? row col = some (.text t) →
        (∃ new, out.cell? row col = some (.text new) ∧
          Pattern.Replaced (unquote template) t (p.matches t) new) ∧
        (p.matches t = [] → out.cell? row col = some (.text t))) ∧
      (b.bottom < b.top ∨ b.right < b.left → out = grid) := by
  have answer : findAndReplace.call grid headers [range, find, template] =
      .ok (.rows (b.modify (replaceInCell p (unquote template)) grid)) := by
    rw [call_findAndReplace compiled, resolved]
    rfl
  have shape : (b.modify (replaceInCell p (unquote template)) grid).shape = grid.shape := by
    rw [Grid.modify_eq_mapCells, Grid.shape_mapCells]
  refine ⟨_, answer, shape, fun row col => Block.text_of_changed, fun row col t inside here => ?_,
    fun reversed => ?_⟩
  · have new : (b.modify (replaceInCell p (unquote template)) grid).cell? row col =
        some (.text (p.replaceAll (unquote template) t)) := by
      rw [Block.cell?_modify, here, Option.map_some, if_pos inside]
      rfl
    have replaced := Pattern.replaced_replaceAll compiled (unquote template) t
    refine ⟨⟨_, new, replaced⟩, fun none => ?_⟩
    rw [none] at replaced
    rw [new, replaced.eq_of_nil]
  · refine Grid.eq_of_cell? shape fun row col => ?_
    rw [Block.cell?_modify, Block.contains_of_reversed reversed row col]
    exact congrFun Option.map_id _

/-- Pairs of letters turned round in two columns of a ragged grid. A single letter has no second
one, and a number, a text without letters and a text in the third column stay. -/
theorem letterPairs_replaced :
    let grid : Grid := [[.text "ab, c".toList, .number 1, .text "ab".toList], [.text "7".toList]]
    let pairs := "\"([a-z])([a-z])?\"".toList
    ∃ out : Grid, findAndReplace.call grid (Column.labels 3)
        ["A1:B2".toList, pairs, "\"$2$1$&\"".toList] = .ok (.rows out) ∧
      out.shape = [3, 1] ∧ out.cell? 0 0 = some (.text "baab, cc".toList) ∧
      out.cell? 0 1 = some (.number 1) ∧ out.cell? 0 2 = some (.text "ab".toList) ∧
      out.cell? 1 0 = some (.text "7".toList) := by
  intro grid pairs
  have pattern : (Pattern.compile? (unquote pairs)).isSome = true := by decide +kernel
  obtain ⟨p, compiled⟩ := Option.isSome_iff_exists.mp pattern
  have letters : (Pattern.compile? (unquote pairs)).map (·.matches "ab, c".toList) =
      some [⟨0, 2, [some (0, 1), some (1, 2)]⟩, ⟨4, 5, [some (4, 5), none]⟩] := by decide +kernel
  have digit : (Pattern.compile? (unquote pairs)).map (·.matches "7".toList) = some [] := by
    decide +kernel
  rw [compiled, Option.map_some] at letters digit
  obtain ⟨out, answer, shape, changed, texts, -⟩ := findAndReplace_frame grid (Column.labels 3)
    "A1:B2".toList pairs "\"$2$1$&\"".toList ⟨0, 1, 0, 1⟩ p (by decide) compiled
  obtain ⟨new, first, replaced⟩ := (texts 0 0 _ (by decide) rfl).1
  rw [replaced.new_eq, Option.some.inj letters] at first
  refine ⟨out, answer, shape, first.trans (by decide), ?_, ?_, ?_⟩
  · by_contra other
    obtain ⟨-, t, text⟩ := changed 0 1 other
    cases text
  · by_contra other
    exact absurd (changed 0 2 other).1 (by decide)
  · exact (texts 1 0 _ (by decide) rfl).2 (Option.some.inj digit)

end Function

end Spreadsheet

import Mathlib.Data.Nat.Digits.Defs
import Spreadsheet.Proofs.ReferenceText

/-!
# Ordinals and labels

Every nonempty run of capital letters is the label of one column, and the count of the letters tells
which. There is no digit zero, so no two runs have the same count. An ordinal is read off the labels
of all columns below the last size, and off nothing else; between these columns shifts add up.
-/

namespace Spreadsheet.Column

variable {t u : Text} {n : Nat} {delta : Int}

theorem letterValue_pos (c : Char) : 0 < letterValue c :=
  Nat.succ_pos _

theorem count_pos (some : t ≠ []) : 0 < count t := by
  obtain ⟨c, rest, rfl⟩ := List.exists_cons_of_ne_nil some
  have first := letterValue_pos c
  have grows := le_countFrom (0 * 26 + letterValue c) rest
  change 0 < countFrom (0 * 26 + letterValue c) rest
  omega

/-- The letters are digits, the last one counts ones, and every other counts twenty-six times what
it would count one place further to the right. -/
theorem count_eq_ofDigits (t : Text) : count t = Nat.ofDigits 26 (t.reverse.map letterValue) := by
  rw [Nat.ofDigits_eq_foldr, List.foldr_map, List.foldr_reverse, count, countFrom]
  congr 1
  funext n c
  rw [Nat.cast_id, Nat.add_comm, Nat.mul_comm]

/-! ## Labels -/

theorem letter_letterValue {c : Char} (upper : c.isUpper = true) :
    letter (letterValue c - 1) = c := by
  have bounds := Text.isUpper_iff.mp upper
  have code : 'A'.toNat + (letterValue c - 1) = c.toNat := by
    have first : 'A'.toNat = 65 := rfl
    rw [letterValue]
    omega
  rw [letter, code, Char.ofNat_toNat]

/-- Letters behind a label go on counting. -/
theorem label_append {n : Nat} (pos : 0 < n) {t : Text} (upper : ∀ c ∈ t, c.isUpper = true) :
    label (n - 1) ++ t = label (countFrom n t - 1) := by
  induction t generalizing n with
  | nil => rw [List.append_nil]; rfl
  | cons c rest ih =>
    have here := upper c List.mem_cons_self
    have bounds := Text.isUpper_iff.mp here
    have value : letterValue c = c.toNat - 65 + 1 := rfl
    have next : label (n - 1) ++ [c] = label (n * 26 + letterValue c - 1) := by
      rw [label_eq (n * 26 + letterValue c - 1), if_neg (by omega),
        show (n * 26 + letterValue c - 1) / 26 - 1 = n - 1 by omega,
        show (n * 26 + letterValue c - 1) % 26 = letterValue c - 1 by omega,
        letter_letterValue here]
    calc label (n - 1) ++ c :: rest
      _ = label (n * 26 + letterValue c - 1) ++ rest := by rw [← next, List.append_assoc]; rfl
      _ = label (countFrom (n * 26 + letterValue c) rest - 1) :=
        ih (by omega) fun d hd => upper d (List.mem_cons_of_mem c hd)

/-- Every nonempty run of capital letters is the label of the column of its count. -/
theorem label_count {t : Text} (upper : ∀ c ∈ t, c.isUpper = true) (lettered : t ≠ []) :
    label (count t - 1) = t := by
  obtain ⟨c, rest, rfl⟩ := List.exists_cons_of_ne_nil lettered
  have here := upper c List.mem_cons_self
  have bounds := Text.isUpper_iff.mp here
  have value : letterValue c = c.toNat - 65 + 1 := rfl
  have first : label (letterValue c - 1) = [c] := by
    rw [label_eq, if_pos (by omega), letter_letterValue here]
  have whole := label_append (letterValue_pos c) fun d hd => upper d (List.mem_cons_of_mem c hd)
  rw [first] at whole
  rw [count, countFrom, List.foldl_cons, Nat.zero_mul, Nat.zero_add]
  exact whole.symm

/-! ## Ordinals -/

theorem ordinal?_of_ne_nil (some : t ≠ []) : ordinal? t =
    if t.all Char.isUpper = true ∧ count t < sizeBound then Option.some (count t - 1)
    else none := by
  rw [ordinal?, if_neg some, foldlM_appendLetter? (by decide)]
  exact apply_ite (Option.map (· - 1)) _ _ _

/-- Letters that count as a size are the label of the column of that count. -/
theorem ordinal?_eq (upper : ∀ c ∈ t, c.isUpper = true) (some : t ≠ [])
    (size : count t < sizeBound) : ordinal? t = Option.some (count t - 1) := by
  rw [ordinal?_of_ne_nil some, if_pos ⟨List.all_eq_true.mpr upper, size⟩]

/-- The labels of columns below the last size have an ordinal, each its own, and nothing else has
one. -/
theorem ordinal?_eq_some_iff : ordinal? t = some n ↔ t = label n ∧ n + 1 < sizeBound := by
  constructor
  · intro h
    have filled : t ≠ [] := by
      rintro rfl
      cases h
    rw [ordinal?_of_ne_nil filled] at h
    split at h
    · rename_i read
      cases h
      have pos := count_pos filled
      exact ⟨(label_count (List.all_eq_true.mp read.1) filled).symm, by omega⟩
    · cases h
  · rintro ⟨rfl, size⟩
    exact ordinal?_label size

theorem ordinal?_eq_none_iff : ordinal? t = none ↔
    t = [] ∨ (∃ c ∈ t, c.isUpper = false) ∨ sizeBound ≤ count t := by
  by_cases filled : t = []
  · subst filled
    exact iff_of_true rfl (.inl rfl)
  · rw [ordinal?_of_ne_nil filled, or_iff_right filled]
    split
    · rename_i read
      refine iff_of_false (Option.some_ne_none _) ?_
      rintro (⟨c, hc, low⟩ | large)
      · rw [List.all_eq_true.mp read.1 c hc] at low
        cases low
      · exact absurd read.2 (Nat.not_lt.mpr large)
    · rename_i unread
      refine iff_of_true rfl ?_
      by_contra neither
      obtain ⟨letters, small⟩ := not_or.mp neither
      refine unread ⟨List.all_eq_true.mpr fun c hc => ?_, Nat.lt_of_not_le small⟩
      by_contra low
      exact letters ⟨c, hc, by simpa using low⟩

/-! ## Shifts -/

/-- A shift goes from the label of a column below the last size to the label of the column so many
places further on. -/
theorem shift?_eq_some_iff : shift? t delta = some u ↔ ∃ m n : Nat, t = label m ∧
    m + 1 < sizeBound ∧ u = label n ∧ n < sizeBound ∧ (m : Int) + delta = n := by
  constructor
  · intro h
    obtain ⟨m, ordinal, landed⟩ := Option.bind_eq_some_iff.mp h
    obtain ⟨rfl, size⟩ := ordinal?_eq_some_iff.mp ordinal
    dsimp only at landed
    split at landed
    · rename_i inside
      cases landed
      exact ⟨m, _, rfl, size, rfl, by omega, by omega⟩
    · cases landed
  · rintro ⟨m, n, rfl, hm, rfl, hn, moved⟩
    exact shift?_label hm hn moved

section Inverse

variable (shifted : shift? t delta = some u) (ordinal : ordinal? u = some n)

include shifted ordinal

theorem shift?_neg : shift? u (-delta) = some t := by
  obtain ⟨m, n, rfl, hm, rfl, hn, moved⟩ := shift?_eq_some_iff.mp shifted
  obtain ⟨same, size⟩ := ordinal?_eq_some_iff.mp ordinal
  rw [← label_injective same] at size
  exact shift?_eq_some_iff.mpr ⟨n, m, rfl, size, rfl, by omega, by omega⟩

theorem shift?_add (further : Int) : shift? u further = shift? t (delta + further) := by
  obtain ⟨m, n, rfl, hm, rfl, hn, moved⟩ := shift?_eq_some_iff.mp shifted
  obtain ⟨same, size⟩ := ordinal?_eq_some_iff.mp ordinal
  rw [← label_injective same] at size
  have target : (m : Int) + (delta + further) = n + further := by omega
  simp only [shift?, ordinal?_label hm, ordinal?_label size, Option.bind_some, target]

end Inverse

/-- Columns below the last size and labels with an ordinal correspond to each other, and no two
columns of any sheet have the same label. A text has no ordinal if and only if it is empty, has
something other than capital letters, or denotes a number that is no size. A shift to a column that
has an ordinal is undone by the opposite shift, and a further one makes one shift with it. -/
theorem ordinals_of_labels :
    (∀ n, n + 1 < sizeBound → ordinal? (label n) = some n) ∧
    (∀ t n, ordinal? t = some n → label n = t) ∧
    (∀ m n, label m = label n → m = n) ∧ (∀ width, (labels width).Nodup) ∧
    (∀ t, ordinal? t = none ↔ t = [] ∨ (∃ c ∈ t, c.isUpper = false) ∨
      sizeBound ≤ Nat.ofDigits 26 (t.reverse.map letterValue)) ∧
    ∀ t u n delta, shift? t delta = some u → ordinal? u = some n →
      shift? u (-delta) = some t ∧
        ∀ further, shift? u further = shift? t (delta + further) := by
  refine ⟨fun n => ordinal?_label, fun t n ordinal => ?_, fun m n => @label_injective m n,
    labels_nodup, fun t => ?_, fun t u n delta shifted ordinal => ?_⟩
  · exact (ordinal?_eq_some_iff.mp ordinal).1.symm
  · rw [← count_eq_ofDigits]
    exact ordinal?_eq_none_iff
  · exact ⟨shift?_neg shifted ordinal, shift?_add shifted ordinal⟩

/-- The label of the last column with an ordinal, and a shift over the end of the single letters. -/
theorem lastOrdinal_and_shift :
    18446744073709551614 + 1 < sizeBound ∧
      ordinal? (label 18446744073709551614) = some 18446744073709551614 ∧
      ordinal? "GKGWBYLWRXTLPO".toList = some 18446744073709551614 ∧
      label 18446744073709551614 = "GKGWBYLWRXTLPO".toList ∧
      shift? "Z".toList 2 = some "AB".toList ∧ ordinal? "AB".toList = some 27 ∧
      shift? "AB".toList (-2) = some "Z".toList ∧
      shift? "AB".toList (-27) = shift? "Z".toList (2 + -27) := by
  obtain ⟨read, written, -, -, -, shifts⟩ := ordinals_of_labels
  have small : 18446744073709551614 + 1 < sizeBound := by decide
  have last : ordinal? "GKGWBYLWRXTLPO".toList = some 18446744073709551614 := by decide
  have shifted : shift? "Z".toList 2 = some "AB".toList := by decide
  have ordinal : ordinal? "AB".toList = some 27 := by decide
  obtain ⟨back, further⟩ := shifts _ _ _ _ shifted ordinal
  exact ⟨small, read _ small, last, written _ _ last, shifted, ordinal, back, further (-27)⟩

end Spreadsheet.Column

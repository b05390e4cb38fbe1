import Mathlib.Data.List.Nodup
import Spreadsheet.Column

/-!
# Labels and counts

A label is a number written with the digits one to twenty-six. `count` reads any run of letters that
way without a bound; `ordinal?` is the count less one wherever the count is a size. Every column has
its own label, so generated headers never repeat.
-/

namespace Spreadsheet.Column

/-- The number that letters denote, continuing from those already read. -/
def countFrom (n : Nat) (t : Text) : Nat :=
  t.foldl (fun n c => n * 26 + letterValue c) n

def count (t : Text) : Nat :=
  countFrom 0 t

theorem isUpper_letter {n : Nat} (h : n < 26) : (letter n).isUpper = true := by
  have all : ∀ m : Fin 26, (letter m).isUpper = true := by decide
  exact all ⟨n, h⟩

theorem letterValue_letter {n : Nat} (h : n < 26) : letterValue (letter n) = n + 1 := by
  have all : ∀ m : Fin 26, letterValue (letter m) = m + 1 := by decide
  exact all ⟨n, h⟩

theorem labelFrom_append (fuel n : Nat) (letters : Text) :
    labelFrom fuel n letters = labelFrom fuel n [] ++ letters := by
  induction fuel generalizing n letters with
  | zero => rfl
  | succ fuel ih =>
    simp only [labelFrom]
    split
    · rfl
    · rw [ih _ (letter (n % 26) :: letters), ih _ [letter (n % 26)], List.append_assoc]
      rfl

theorem labelFrom_enough {fuel n : Nat} (h : n < fuel) : labelFrom fuel n [] = label n := by
  induction fuel using Nat.strongRecOn generalizing n with
  | ind fuel ih =>
    cases fuel with
    | zero => omega
    | succ fuel =>
      simp only [label, labelFrom]
      split
      · rfl
      · have shorter : n / 26 - 1 < n := by omega
        rw [labelFrom_append fuel, labelFrom_append n, ih fuel (by omega) (by omega),
          ih n (by omega) shorter]

/-- The last letter stands for the remainder, those before it for the quotient. -/
theorem label_eq (n : Nat) :
    label n = if n < 26 then [letter n] else label (n / 26 - 1) ++ [letter (n % 26)] := by
  rw [label, labelFrom]
  split
  · rfl
  · rw [labelFrom_append, labelFrom_enough (by omega)]

theorem label_ne_nil (n : Nat) : label n ≠ [] := by
  rw [label_eq]
  split <;> simp

theorem label_all_isUpper (n : Nat) : (label n).all Char.isUpper = true := by
  induction n using Nat.strongRecOn with
  | ind n ih =>
    rw [label_eq]
    split
    · rename_i h
      simp [isUpper_letter h]
    · rw [List.all_append, ih (n / 26 - 1) (by omega)]
      simp [isUpper_letter (Nat.mod_lt n (by omega))]

theorem count_label (n : Nat) : count (label n) = n + 1 := by
  induction n using Nat.strongRecOn with
  | ind n ih =>
    rw [label_eq]
    split
    · rename_i h
      simp [count, countFrom, letterValue_letter h]
    · have tail := ih (n / 26 - 1) (by omega)
      have digit := letterValue_letter (Nat.mod_lt n (show 26 > 0 by omega))
      simp only [count, countFrom] at tail
      simp only [count, countFrom, List.foldl_append, List.foldl_cons, List.foldl_nil, tail, digit]
      omega

theorem label_injective : Function.Injective label := by
  intro m n h
  have counts := congrArg count h
  rw [count_label, count_label] at counts
  omega

theorem length_labels (width : Nat) : (labels width).length = width := by
  simp [labels]

theorem labels_nodup (width : Nat) : (labels width).Nodup :=
  List.Nodup.map label_injective List.nodup_range

theorem getElem?_labels {width i : Nat} (h : i < width) : (labels width)[i]? = some (label i) := by
  simp [labels, h]

theorem le_countFrom (n : Nat) (t : Text) : n ≤ countFrom n t := by
  induction t generalizing n with
  | nil => exact Nat.le_refl n
  | cons c rest ih =>
    have later := ih (n * 26 + letterValue c)
    simp only [countFrom, List.foldl_cons] at later ⊢
    omega

/-- Reading letters one at a time fails exactly where the whole is no label with a size. -/
theorem foldlM_appendLetter? {n : Nat} (h : n < sizeBound) (t : Text) :
    t.foldlM appendLetter? n =
      if t.all Char.isUpper = true ∧ countFrom n t < sizeBound then some (countFrom n t)
      else none := by
  induction t generalizing n with
  | nil => simp [countFrom, h]
  | cons c rest ih =>
    have grows := le_countFrom (n * 26 + letterValue c) rest
    simp only [List.foldlM_cons, appendLetter?]
    by_cases fits : c.isUpper = true ∧ n * 26 + letterValue c < sizeBound
    · rw [if_pos fits, Option.bind_eq_bind, Option.bind_some, ih fits.2]
      simp [countFrom, fits.1]
    · rw [if_neg fits]
      have wrong :
          ¬((c :: rest).all Char.isUpper = true ∧ countFrom n (c :: rest) < sizeBound) := by
        rintro ⟨upper, small⟩
        simp only [List.all_cons, Bool.and_eq_true] at upper
        simp only [countFrom, List.foldl_cons] at small grows
        exact fits ⟨upper.1, by omega⟩
      rw [if_neg wrong]
      rfl

theorem ordinal?_label {n : Nat} (h : n + 1 < sizeBound) : ordinal? (label n) = some n := by
  have read := foldlM_appendLetter? (show 0 < sizeBound by decide) (label n)
  have value : countFrom 0 (label n) = n + 1 := count_label n
  rw [value, if_pos ⟨label_all_isUpper n, h⟩] at read
  rw [ordinal?, if_neg (label_ne_nil n), read]
  rfl

/-- A shift that stays between the first column and the last size moves the label as far. -/
theorem shift?_label {m n : Nat} {delta : Int} (hm : m + 1 < sizeBound) (hn : n < sizeBound)
    (h : (m : Int) + delta = n) : shift? (label m) delta = some (label n) := by
  have inside : (0 : Int) ≤ n ∧ (n : Int) < sizeBound := ⟨by omega, by exact_mod_cast hn⟩
  simp only [shift?, ordinal?_label hm, Option.bind_some, h, Int.toNat_natCast]
  rw [if_pos inside]

end Spreadsheet.Column

import Mathlib.Data.String.Basic
import Spreadsheet.Text

/-!
# Positions in bytes

A text counts its characters, but what edits it may count bytes, and a character takes between one
and four of them. At a byte a text can only be cut where a character begins or the text ends. The
byte at which a character begins is such a place, whatever its index, and cutting there leaves the
characters before it on one side and the others on the other.
-/

namespace Spreadsheet.Text

open String (utf8Len)

/-- The bytes at which the characters begin, from a byte on. -/
def beginnings : Nat → Text → List Nat
  | _, [] => []
  | first, c :: rest => first :: beginnings (first + c.utf8Size) rest

/-- The byte at which the character at an index begins, and the end of the text if it has no such
character. -/
def byteOffset (t : Text) (n : Nat) : Nat :=
  (beginnings 0 t)[n]?.getD (utf8Len t)

/-- The text before and after a byte, if a character begins there or the text ends. -/
def cut? : Text → Nat → Option (Text × Text)
  | t, 0 => some ([], t)
  | [], _ + 1 => none
  | c :: rest, n + 1 =>
    if c.utf8Size ≤ n + 1 then
      (cut? rest (n + 1 - c.utf8Size)).map fun (before, after) => (c :: before, after)
    else none

/-- What lies between two bytes. -/
def slice? (t : Text) (start stop : Nat) : Option Text :=
  if start ≤ stop then do
    let (before, _) ← t.cut? stop
    let (_, slice) ← before.cut? start
    return slice
  else none

/-- Puts a text in at a byte. -/
def insertAt? (t : Text) (position : Nat) (new : Text) : Option Text := do
  let (before, after) ← t.cut? position
  return before ++ new ++ after

/-- Takes out what lies between two bytes. -/
def removeBetween? (t : Text) (start stop : Nat) : Option Text :=
  if start ≤ stop then do
    let (before, _) ← t.cut? start
    let (_, after) ← t.cut? stop
    return before ++ after
  else none

theorem getElem?_beginnings (first : Nat) (t : Text) (n : Nat) :
    (beginnings first t)[n]? =
      if n < t.length then some (first + utf8Len (t.take n)) else none := by
  induction t generalizing first n with
  | nil => rfl
  | cons c rest ih =>
    cases n with
    | zero => simp [beginnings]
    | succ n => simp [beginnings, ih, Nat.add_assoc, Nat.add_comm c.utf8Size]

theorem byteOffset_eq (t : Text) (n : Nat) : t.byteOffset n = utf8Len (t.take n) := by
  rw [byteOffset, getElem?_beginnings]
  by_cases inside : n < t.length
  · simp [inside]
  · rw [if_neg inside, List.take_of_length_le (by omega)]
    rfl

theorem byteOffset_le (t : Text) {m n : Nat} (le : m ≤ n) : t.byteOffset m ≤ t.byteOffset n := by
  rw [byteOffset_eq, byteOffset_eq]
  exact String.utf8Len_le_of_prefix (List.take_prefix_take_left le)

/-- A text is cut exactly where one part of it ends and the other begins. -/
theorem cut?_eq_some_iff {t u v : Text} {n : Nat} :
    t.cut? n = some (u, v) ↔ t = u ++ v ∧ n = utf8Len u := by
  induction t, n using cut?.induct generalizing u with
  | case1 t =>
    rw [cut?]
    constructor
    · intro h
      cases h
      exact ⟨rfl, rfl⟩
    · rintro ⟨rfl, none⟩
      rw [String.utf8Len_eq_zero.mp none.symm]
      rfl
  | case2 n =>
    rw [cut?]
    constructor
    · intro h
      cases h
    · rintro ⟨none, last⟩
      rw [(List.append_eq_nil_iff.mp none.symm).1] at last
      cases last
  | case3 c rest n fits ih =>
    rw [cut?, if_pos fits]
    constructor
    · intro h
      obtain ⟨⟨before, after⟩, found, same⟩ := Option.map_eq_some_iff.mp h
      cases same
      obtain ⟨rfl, last⟩ := ih.mp found
      refine ⟨rfl, ?_⟩
      rw [String.utf8Len_cons]
      omega
    · rintro ⟨parts, last⟩
      cases u with
      | nil => cases last
      | cons d u =>
        cases parts
        rw [String.utf8Len_cons] at last
        rw [ih.mpr ⟨rfl, by omega⟩]
        rfl
  | case4 c rest n inside =>
    rw [cut?, if_neg inside]
    constructor
    · intro h
      cases h
    · rintro ⟨parts, last⟩
      cases u with
      | nil => cases last
      | cons d u =>
        cases parts
        rw [String.utf8Len_cons] at last
        omega

/-- A text can be cut exactly at the positions that are valid in it as a string. -/
theorem isSome_cut?_iff {t : Text} {n : Nat} :
    (t.cut? n).isSome = true ↔ String.Pos.Raw.Valid (String.ofList t) ⟨n⟩ := by
  constructor
  · intro cut
    obtain ⟨⟨u, v⟩, found⟩ := Option.isSome_iff_exists.mp cut
    obtain ⟨rfl, rfl⟩ := cut?_eq_some_iff.mp found
    exact .mk u v rfl
  · intro valid
    obtain ⟨u, v, parts, place⟩ := valid.exists
    have found : t.cut? n = some (u, v) :=
      cut?_eq_some_iff.mpr
        ⟨(String.ofList_injective parts).symm, congrArg String.Pos.Raw.byteIdx place⟩
    rw [found]
    rfl

theorem cut?_byteOffset (t : Text) (n : Nat) :
    t.cut? (t.byteOffset n) = some (t.take n, t.drop n) :=
  cut?_eq_some_iff.mpr ⟨(List.take_append_drop n t).symm, t.byteOffset_eq n⟩

/-- The middle one of three parts lies between the ends of the first and the second. -/
theorem slice?_append (u v w : Text) :
    (u ++ v ++ w).slice? (utf8Len u) (utf8Len (u ++ v)) = some v := by
  have ordered : utf8Len u ≤ utf8Len (u ++ v) :=
    String.utf8Len_le_of_prefix (List.prefix_append u v)
  have last : (u ++ v ++ w).cut? (utf8Len (u ++ v)) = some (u ++ v, w) :=
    cut?_eq_some_iff.mpr ⟨rfl, rfl⟩
  have first : (u ++ v).cut? (utf8Len u) = some (u, v) := cut?_eq_some_iff.mpr ⟨rfl, rfl⟩
  simp only [slice?, if_pos ordered, last, first, Option.bind_eq_bind, Option.bind_some]
  rfl

theorem insertAt?_byteOffset (t : Text) (n : Nat) (new : Text) :
    t.insertAt? (t.byteOffset n) new = some (t.take n ++ new ++ t.drop n) := by
  rw [insertAt?, cut?_byteOffset]
  rfl

theorem removeBetween?_byteOffset (t : Text) {m n : Nat} (le : m ≤ n) :
    t.removeBetween? (t.byteOffset m) (t.byteOffset n) = some (t.take m ++ t.drop n) := by
  rw [removeBetween?, if_pos (t.byteOffset_le le), cut?_byteOffset, cut?_byteOffset]
  rfl

end Spreadsheet.Text

import Mathlib.Data.List.Forall2
import Spreadsheet.Proofs.Literals

/-!
# What a move rewrites

A move writes other tokens, or the mark of a lost one, where tokens stand outside of literals, and
nothing else: every other character is in its place, in literals and out of them. A token that is
still one has its markers, what a marker fixes is written as before, and along an axis without a
move the token keeps its place. A token with both markers is written as before.
-/

namespace Spreadsheet

namespace Token

/-- A token may stand in the place of another after a move. The markers are the same; what they fix
is written as before; and the axes that are not moved name the same column and the same row. -/
structure Follows (rows cols : Int) (k k' : Token) : Prop where
  proper : k'.Proper
  colFixed : k'.colFixed = k.colFixed
  rowFixed : k'.rowFixed = k.rowFixed
  letters : k.colFixed = true ∨ cols = 0 → k'.letters = k.letters
  digits : k.rowFixed = true → k'.digits = k.digits
  row : rows = 0 → Text.toNat k'.digits = Text.toNat k.digits

theorem Proper.follows {k : Token} (proper : k.Proper) (rows cols : Int) :
    k.Follows rows cols k :=
  ⟨proper, rfl, rfl, fun _ => rfl, fun _ => rfl, fun _ => rfl⟩

end Token

/-- What may stand in the place of a segment after a move. -/
inductive Segment.Rewritten (rows cols : Int) : Segment → Text → Prop
  | plain (c : Char) : Rewritten rows cols (.plain c) [c]
  | fixed {k : Token} (both : k.colFixed = true ∧ k.rowFixed = true) :
      Rewritten rows cols (.token k) k.toText
  | token {k k' : Token} (free : ¬(k.colFixed = true ∧ k.rowFixed = true))
      (follows : k.Follows rows cols k') : Rewritten rows cols (.token k) k'.toText
  | lost {k : Token} (free : ¬(k.colFixed = true ∧ k.rowFixed = true)) :
      Rewritten rows cols (.token k) Relocation.lost

namespace Relocation

variable {rows cols : Int}

/-- The letters of a token after a move. -/
theorem letters_of_shift {k : Token} {letters : Text} (proper : k.Proper)
    (shifted : (if k.colFixed then some k.letters else Column.shift? k.letters cols) =
      some letters) :
    (∀ c ∈ letters, c.isUpper = true) ∧ letters ≠ [] ∧
      (k.colFixed = true ∨ cols = 0 → letters = k.letters) := by
  split at shifted
  · cases shifted
    exact ⟨proper.upper, proper.lettered, fun _ => rfl⟩
  · rename_i free
    obtain ⟨m, n, labelled, -, rfl, -, moved⟩ := Column.shift?_eq_some_iff.mp shifted
    refine ⟨List.all_eq_true.mp (Column.label_all_isUpper n), Column.label_ne_nil n, ?_⟩
    rintro (fixed | still)
    · exact absurd fixed free
    · rw [labelled, show n = m by omega]

theorem toNat_of_shiftRow {digits : Text} {n : Nat} (h : shiftRow digits rows = .row n) :
    rows = 0 → n = Text.toNat digits := by
  rintro rfl
  simp only [shiftRow, Int.add_zero] at h
  split at h
  · split at h
    · cases h
    · cases h
      exact Int.toNat_natCast _
  · cases h

/-- A token becomes one that may follow it, or is lost. -/
theorem rewritten_token {k : Token} (proper : k.Proper) :
    Segment.Rewritten rows cols (.token k) (token rows cols k) := by
  rw [token]
  split
  · rename_i both
    exact .fixed both
  · rename_i free
    split
    · exact .lost free
    · rename_i letters shifted
      obtain ⟨upper, lettered, kept⟩ := letters_of_shift proper shifted
      split
      · rename_i fixed
        have follows : k.Follows rows cols ⟨k.colFixed, letters, true, k.digits⟩ :=
          ⟨⟨upper, lettered, proper.decimal, proper.numbered⟩, rfl, fixed.symm, kept,
            fun _ => rfl, fun _ => rfl⟩
        exact .token free follows
      · rename_i loose
        split
        · rename_i n moved
          have follows : k.Follows rows cols ⟨k.colFixed, letters, false, Text.ofNat n⟩ :=
            ⟨⟨upper, lettered, fun c => Text.isDigit_of_mem_ofNat, Text.ofNat_ne_nil n⟩, rfl,
              (Bool.eq_false_iff.mpr loose).symm, kept, fun fixed => absurd fixed loose,
              fun still => (Text.toNat_ofNat n).trans (toNat_of_shiftRow moved still)⟩
          exact .token free follows
        · exact .lost free
        · exact .token free (proper.follows rows cols)

theorem rewritten_segment {quoted : Bool} {t : Text} {segments : List Segment}
    (cut : Segment.Cut quoted t segments) {x : Segment} (h : x ∈ segments) :
    Segment.Rewritten rows cols x (segment rows cols x) := by
  cases x with
  | token k => exact rewritten_token (cut.proper h)
  | plain c => exact .plain c

/-- Without a move every token stands for itself. -/
theorem rewritten_toText {quoted : Bool} {t : Text} {segments : List Segment}
    (cut : Segment.Cut quoted t segments) {x : Segment} (h : x ∈ segments) :
    Segment.Rewritten rows cols x x.toText := by
  cases x with
  | token k =>
    by_cases both : k.colFixed = true ∧ k.rowFixed = true
    · exact .fixed both
    · exact .token both ((cut.proper h).follows rows cols)
  | plain c => exact .plain c

theorem formula_pieces (rows cols : Int) {t : Text} {segments : List Segment}
    (cut : Segment.Cut false t segments) :
    ∃ pieces, List.Forall₂ (Segment.Rewritten rows cols) segments pieces ∧
      formula rows cols t = pieces.flatten := by
  by_cases still : rows = 0 ∧ cols = 0
  · refine ⟨segments.map Segment.toText, ?_, ?_⟩
    · exact List.forall₂_map_right_iff.mpr
        (List.forall₂_same.mpr fun x => rewritten_toText cut)
    · rw [formula, if_pos still, ← List.flatMap_def, cut.toText]
  · refine ⟨segments.map (segment rows cols), ?_, ?_⟩
    · exact List.forall₂_map_right_iff.mpr
        (List.forall₂_same.mpr fun x => rewritten_segment cut)
    · rw [formula, if_neg still, ← List.flatMap_def, Segment.ofText, cut.scan]

/-- A literal stays as it is, and the texts around it are moved as if they stood alone. -/
theorem formula_append_quote {before : Text} (closed : Even (before.count '"')) (rest : Text) :
    formula rows cols (before ++ '"' :: rest) = formula rows cols before ++
      '"' :: if rows = 0 ∧ cols = 0 then rest else relocated rows cols true rest := by
  by_cases still : rows = 0 ∧ cols = 0
  · simp only [formula, if_pos still]
  · have outside : Text.leftQuoted false before = false :=
      (Text.leftQuoted_eq_false_iff false before).mpr closed
    rw [formula_eq_relocated still, formula_eq_relocated still, relocated_append_quote, outside,
      if_neg still]
    rfl

/-- A moved formula is made of the segments that the formula is cut into, some of its tokens being
others or lost; cutting it by its bytes fails nowhere and comes to the same. A literal that is
closed stays as it is between two formulas that are moved on their own, and so does one that is
never closed behind one that is. -/
theorem formula_rewrites_tokens (rows cols : Int) :
    (∀ t, formulaBytes? rows cols t = some (formula rows cols t) ∧
      ∃ segments pieces, (∀ others, Segment.Cut false t others ↔ others = segments) ∧
        List.Forall₂ (Segment.Rewritten rows cols) segments pieces ∧
        formula rows cols t = pieces.flatten) ∧
    (∀ before literal after, Even (before.count '"') → '"' ∉ literal →
      formula rows cols (before ++ '"' :: (literal ++ '"' :: after)) =
        formula rows cols before ++ '"' :: (literal ++ '"' :: formula rows cols after)) ∧
    ∀ before literal, Even (before.count '"') → '"' ∉ literal →
      formula rows cols (before ++ '"' :: literal) =
        formula rows cols before ++ '"' :: literal := by
  refine ⟨fun t => ⟨formulaBytes?_eq rows cols t, ?_⟩, ?_, ?_⟩
  · obtain ⟨pieces, rewritten, moved⟩ := formula_pieces rows cols (Segment.cut_scan false t)
    exact ⟨_, pieces, fun others => Segment.cut_iff, rewritten, moved⟩
  · intro before literal after closed without
    rw [formula_append_quote closed]
    split
    · rename_i still
      rw [formula, formula, if_pos still, if_pos still]
    · rename_i moved
      rw [relocated_append_quote, relocated_quoted without, Text.leftQuoted_of_notMem without,
        formula_eq_relocated moved after]
      rfl
  · intro before literal closed without
    rw [formula_append_quote closed]
    split
    · rfl
    · rw [relocated_quoted without]

/-- One row down, the tokens between the quotes stay. -/
theorem literals_kept :
    Even ("A1&".toList.count '"') ∧ '"' ∉ "B1".toList ∧
      formula 1 0 "A1&\"B1\"&$C1".toList = "A2&\"B1\"&$C2".toList ∧
      formula 1 0 "A1&\"B1".toList = "A2&\"B1".toList := by
  obtain ⟨-, closed, unclosed⟩ := formula_rewrites_tokens 1 0
  have even : Even ("A1&".toList.count '"') := by decide
  have without : '"' ∉ "B1".toList := by decide
  exact ⟨even, without,
    (closed "A1&".toList "B1".toList "&$C1".toList even without).trans (by decide),
    (unclosed "A1&".toList "B1".toList even without).trans (by decide)⟩

end Relocation

end Spreadsheet

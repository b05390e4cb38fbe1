import Spreadsheet.Proofs.RelocatedReferences

/-!
# Moving a formula on

A formula that is moved and then moved on is where it would have been taken at once, and moved back
it is the formula it was. The second move cuts the text that the first one has written, so what has
to be seen is that moved tokens stand in the new text exactly where they stood in the old one: none
begins earlier, none runs on, and none comes up between them. Whether a token begins at a character
is found out from left to right, and a token that is met on the way answers all that is asked by its
first character alone, which a move does not change.
-/

namespace Spreadsheet

namespace Text

theorem ofNat_of_isDigit {c : Char} (h : c.isDigit = true) : ofNat (c.toNat - 48) = [c] := by
  have digit := isDigit_iff.mp h
  have small : c.toNat - 48 < 10 := by omega
  have same : Nat.digitChar (c.toNat - 48) = c := by
    apply Char.toNat_inj.mp
    rw [Nat.toNat_digitChar_of_lt_ten small]
    omega
  rw [ofNat, Nat.toDigits_of_lt_base small, same]

/-- Digits behind a number that is not zero go on with it. -/
theorem ofNat_append {n : Nat} (pos : 0 < n) {digits : Text}
    (decimal : ∀ c ∈ digits, c.isDigit = true) :
    ofNat n ++ digits = ofNat (Nat.ofDigitChars 10 digits n) := by
  induction digits generalizing n with
  | nil => rw [List.append_nil, Nat.ofDigitChars_nil]
  | cons c rest ih =>
    have here := decimal c List.mem_cons_self
    have digit := isDigit_iff.mp here
    have next : ofNat n ++ [c] = ofNat (10 * n + (c.toNat - 48)) := by
      rw [← ofNat_of_isDigit here]
      exact Nat.toDigits_append_toDigits (by decide) pos (by omega)
    calc ofNat n ++ c :: rest
      _ = ofNat (10 * n + (c.toNat - 48)) ++ rest := by rw [← next, List.append_assoc]; rfl
      _ = ofNat (Nat.ofDigitChars 10 rest (10 * n + (c.toNat - 48))) :=
        ih (by omega) fun d hd => decimal d (List.mem_cons_of_mem c hd)
      _ = ofNat (Nat.ofDigitChars 10 (c :: rest) n) := by rw [Nat.ofDigitChars_cons]; rfl

/-- Digits that do not begin with a zero are what their number is written as. -/
theorem ofNat_toNat {digits : Text} (decimal : ∀ c ∈ digits, c.isDigit = true)
    (numbered : digits ≠ []) (leading : digits.head? ≠ some '0') :
    ofNat (toNat digits) = digits := by
  obtain ⟨c, rest, rfl⟩ := List.exists_cons_of_ne_nil numbered
  have here := decimal c List.mem_cons_self
  have pos : 0 < c.toNat - 48 := by
    have zero : c.toNat ≠ 48 := fun same =>
      leading (congrArg some (Char.toNat_inj.mp (same.trans (by decide))))
    have digit := isDigit_iff.mp here
    omega
  have whole := ofNat_append pos fun d hd => decimal d (List.mem_cons_of_mem c hd)
  rw [ofNat_of_isDigit here] at whole
  rw [toNat, Nat.ofDigitChars_cons, Nat.mul_zero, Nat.zero_add]
  exact whole.symm

end Text

/-- What has been read of a token so far. -/
inductive Token.Progress where
  | nothing
  /-- The `$` of the column. -/
  | marked
  | lettered
  /-- The `$` of the row. -/
  | fixed
deriving DecidableEq, Repr

namespace Token

/-- Whether the text goes on with the rest of a token, up to its first digit at least. -/
def completes : Progress → Text → Bool
  | _, [] => false
  | .nothing, c :: rest =>
    if c = '$' then completes .marked rest else c.isUpper && completes .lettered rest
  | .marked, c :: rest => c.isUpper && completes .lettered rest
  | .lettered, c :: rest =>
    if c = '$' then completes .fixed rest
    else c.isDigit || (c.isUpper && completes .lettered rest)
  | .fixed, c :: _ => c.isDigit

/-- What stands behind a character matters only for what it completes. -/
theorem completes_cons_congr {t t' : Text} (same : ∀ p, completes p t = completes p t')
    (p : Progress) (c : Char) : completes p (c :: t) = completes p (c :: t') := by
  cases p with
  | nothing | lettered => simp only [completes, same]
  | marked => simp only [completes, same]
  | fixed => rfl

/-- A quote completes nothing. -/
theorem completes_quote (p : Progress) (t : Text) : completes p ('"' :: t) = false := by
  cases p <;> rfl

/-- A letter goes on with a token as long as no `$` has to be followed by a digit. -/
theorem completes_of_isUpper {c : Char} (upper : c.isUpper = true) (rest : Text) {p : Progress}
    (free : p ≠ .fixed) : completes p (c :: rest) = completes .lettered rest := by
  have no_dollar : c ≠ '$' := by
    rintro rfl
    exact absurd upper (by decide)
  have no_digit := Text.not_isDigit_of_isUpper upper
  cases p with
  | nothing | lettered => simp [completes, no_dollar, no_digit, upper]
  | marked => simp [completes, upper]
  | fixed => exact absurd rfl free

theorem completes_fixed (t : Text) :
    completes .fixed t = false ↔ t.takeWhile Char.isDigit = [] := by
  cases t with
  | nil => simp [completes]
  | cons c rest =>
    cases digit : c.isDigit with
    | true => simp [completes, digit]
    | false => simp [completes, digit]

theorem stops_iff_completes (t : Text) :
    Text.Stops Char.isDigit t ↔ completes .fixed t = false := by
  cases t with
  | nil => simp [completes, Text.Stops]
  | cons c rest => simp [completes, Text.Stops]

theorem completes_lettered (t : Text) :
    completes .lettered t = false ↔
      (takeMarker (t.dropWhile Char.isUpper)).2.takeWhile Char.isDigit = [] := by
  induction t with
  | nil => simp [completes, takeMarker]
  | cons c rest ih =>
    cases upper : c.isUpper with
    | true =>
      rw [completes_of_isUpper upper rest (by decide), List.dropWhile_cons_of_pos upper]
      exact ih
    | false =>
      rw [List.dropWhile_cons_of_neg (by rw [upper]; decide)]
      by_cases dollar : c = '$'
      · subst dollar
        exact completes_fixed rest
      · rw [takeMarker_of_ne dollar, ← completes_fixed]
        simp only [completes, if_neg dollar, upper, Bool.false_and, Bool.or_false]

theorem completes_marked (t : Text) :
    completes .marked t = false ↔
      t.takeWhile Char.isUpper = [] ∨ completes .lettered t = false := by
  cases t with
  | nil => simp [completes]
  | cons c rest =>
    cases upper : c.isUpper with
    | true =>
      rw [completes_of_isUpper upper rest (by decide), completes_of_isUpper upper rest (by decide)]
      simp [upper]
    | false => simp [completes, upper]

theorem completes_nothing (t : Text) :
    completes .nothing t = completes .marked (takeMarker t).2 := by
  rw [takeMarker.eq_def]
  split
  · rfl
  · rename_i other
    cases t with
    | nil => rfl
    | cons c rest =>
      have no_dollar : c ≠ '$' := by
        rintro rfl
        exact other rest rfl
      simp only [completes, if_neg no_dollar]

/-- A token is read at the front of a text if the text goes on with one from the start. -/
theorem atFront?_eq_none_iff_completes (t : Text) :
    Token.atFront? t = none ↔ completes .nothing t = false := by
  rw [completes_nothing, completes_marked, completes_lettered]
  simp only [Token.atFront?]
  split
  · rename_i read
    simp [read]
  · rename_i unread
    simp only [true_iff]
    by_contra none
    exact unread (not_or.mp none)

/-- Behind its letters a token is completed by its digits, whether a `$` stands before them. -/
theorem Proper.completes_row {k : Token} (proper : k.Proper) (rest : Text) :
    Token.completes .lettered (marker k.rowFixed ++ k.digits ++ rest) = true := by
  obtain ⟨d, ds, digits⟩ := List.exists_cons_of_ne_nil proper.numbered
  have digit : d.isDigit = true := proper.decimal d (digits ▸ List.mem_cons_self)
  rw [digits]
  cases k.rowFixed with
  | true => exact digit
  | false =>
    have no_dollar : d ≠ '$' := by
      rintro rfl
      exact absurd digit (by decide)
    simp [marker, Token.completes, no_dollar, digit]

/-- More letters change nothing. -/
theorem completes_letters {letters : Text} (upper : ∀ c ∈ letters, c.isUpper = true)
    (rest : Text) : completes .lettered (letters ++ rest) = completes .lettered rest := by
  induction letters with
  | nil => rfl
  | cons c cs ih =>
    rw [List.cons_append, completes_of_isUpper (upper c List.mem_cons_self) _ (by decide)]
    exact ih fun d hd => upper d (List.mem_cons_of_mem c hd)

/-- A token that is met answers by its first character, which is a `$` or a letter. -/
theorem Proper.completes {k : Token} (proper : k.Proper) (p : Progress) (rest : Text) :
    Token.completes p (k.toText ++ rest) =
      match p with
      | .nothing => true
      | .marked | .lettered => !k.colFixed
      | .fixed => false := by
  obtain ⟨c, cs, letters⟩ := List.exists_cons_of_ne_nil proper.lettered
  have upper : c.isUpper = true := proper.upper c (letters ▸ List.mem_cons_self)
  have written : k.toText ++ rest =
      marker k.colFixed ++ c :: (cs ++ (marker k.rowFixed ++ k.digits ++ rest)) := by
    simp only [toText, letters, List.append_assoc, List.cons_append]
  have done : Token.completes .lettered (cs ++ (marker k.rowFixed ++ k.digits ++ rest)) = true := by
    rw [completes_letters fun d hd => proper.upper d (letters ▸ List.mem_cons_of_mem c hd)]
    exact proper.completes_row rest
  have no_digit := Text.not_isDigit_of_isUpper upper
  rw [written]
  cases k.colFixed with
  | true =>
    cases p with
    | nothing => exact (completes_of_isUpper (p := .marked) upper _ (by decide)).trans done
    | marked => rfl
    | lettered => exact no_digit
    | fixed => rfl
  | false =>
    cases p with
    | nothing => exact (completes_of_isUpper (p := .nothing) upper _ (by decide)).trans done
    | marked => exact (completes_of_isUpper (p := .marked) upper _ (by decide)).trans done
    | lettered => exact (completes_of_isUpper (p := .lettered) upper _ (by decide)).trans done
    | fixed => exact no_digit

end Token

namespace Segment

/-- Puts another token in the place of each. -/
def mapToken (f : Token → Token) : Segment → Segment
  | token k => token (f k)
  | plain c => plain c

section Rewriting

variable {f : Token → Token} {quoted : Bool} {t : Text} {segments : List Segment}

/-- Tokens in the place of others that begin alike complete the same. -/
theorem Cut.completes_map (h : Cut quoted t segments)
    (alike : ∀ k, .token k ∈ segments → (f k).Proper ∧ (f k).colFixed = k.colFixed)
    (p : Token.Progress) :
    Token.completes p ((segments.map (mapToken f)).flatMap Segment.toText) =
      Token.completes p t := by
  induction h generalizing p with
  | nil => rfl
  | quote h ih => exact (Token.completes_quote p _).trans (Token.completes_quote p _).symm
  | quoted other h ih | plain other nowhere h ih =>
    exact Token.completes_cons_congr (ih fun k hk => alike k (List.mem_cons_of_mem _ hk)) p _
  | @token k rest segments proper stop h ih =>
    obtain ⟨proper', front⟩ := alike k List.mem_cons_self
    have new := proper'.completes p ((segments.map (mapToken f)).flatMap Segment.toText)
    rw [front] at new
    exact new.trans (proper.completes p rest).symm

/-- A text in which tokens stand in the place of others that begin alike is cut where the other
text is. -/
theorem Cut.map (h : Cut quoted t segments)
    (alike : ∀ k, .token k ∈ segments → (f k).Proper ∧ (f k).colFixed = k.colFixed) :
    Cut quoted ((segments.map (mapToken f)).flatMap Segment.toText)
      (segments.map (mapToken f)) := by
  induction h with
  | nil quoted => exact .nil quoted
  | quote h ih => exact .quote (ih fun k hk => alike k (List.mem_cons_of_mem _ hk))
  | quoted other h ih => exact .quoted other (ih fun k hk => alike k (List.mem_cons_of_mem _ hk))
  | @token k rest segments proper stop h ih =>
    have later : ∀ k, .token k ∈ segments → (f k).Proper ∧ (f k).colFixed = k.colFixed :=
      fun k hk => alike k (List.mem_cons_of_mem _ hk)
    have stop' : Text.Stops Char.isDigit ((segments.map (mapToken f)).flatMap Segment.toText) := by
      rw [Token.stops_iff_completes, h.completes_map later, ← Token.stops_iff_completes]
      exact stop
    exact .token (alike k List.mem_cons_self).1 stop' (ih later)
  | @plain c rest segments other nowhere h ih =>
    have later : ∀ k, .token k ∈ segments → (f k).Proper ∧ (f k).colFixed = k.colFixed :=
      fun k hk => alike k (List.mem_cons_of_mem _ hk)
    refine .plain other ?_ (ih later)
    rw [← Token.atFront?_eq_none_iff, Token.atFront?_eq_none_iff_completes] at nowhere ⊢
    rw [← nowhere]
    exact Token.completes_cons_congr (h.completes_map later) .nothing c

end Rewriting

end Segment

namespace Token

/-- A token of a text, outside of quotes. -/
def In (k : Token) (t : Text) : Prop :=
  ∃ segments, Segment.Cut false t segments ∧ .token k ∈ segments

theorem in_iff {k : Token} {t : Text} : k.In t ↔ .token k ∈ Segment.ofText t := by
  constructor
  · rintro ⟨segments, cut, found⟩
    rw [Segment.ofText, ← Segment.cut_iff.mp cut]
    exact found
  · intro found
    exact ⟨_, Segment.cut_scan false t, found⟩

theorem In.proper {k : Token} {t : Text} (h : k.In t) : k.Proper := by
  obtain ⟨segments, cut, found⟩ := h
  exact cut.proper found

/-- A row that moves is written without leading zeros. -/
def Printed (k : Token) : Prop :=
  k.rowFixed = false → k.digits.head? ≠ some '0'

/-- On the axes that are moved, a token is not before the first column or row after the move, and
its numbers are sizes. -/
structure Stays (rows cols : Int) (k : Token) : Prop where
  column : k.colFixed = false → 0 ≤ k.columnAfter cols ∧ k.columnAfter cols + 1 < sizeBound
  row : k.rowFixed = false → 1 ≤ k.rowAfter rows ∧ k.rowAfter rows < sizeBound

instance (k : Token) : Decidable k.Printed :=
  inferInstanceAs (Decidable (_ → _))

instance (rows cols : Int) (k : Token) : Decidable (k.Stays rows cols) :=
  decidable_of_iff ((k.colFixed = false →
        0 ≤ k.columnAfter cols ∧ k.columnAfter cols + 1 < sizeBound) ∧
      (k.rowFixed = false → 1 ≤ k.rowAfter rows ∧ k.rowAfter rows < sizeBound))
    ⟨fun ⟨column, row⟩ => ⟨column, row⟩, fun stays => ⟨stays.column, stays.row⟩⟩

/-- The token that comes of a move. -/
def moved (rows cols : Int) (k : Token) : Token where
  colFixed := k.colFixed
  letters := if k.colFixed then k.letters else Column.label (k.columnAfter cols).toNat
  rowFixed := k.rowFixed
  digits := if k.rowFixed then k.digits else Text.ofNat (k.rowAfter rows).toNat

section Moving

variable {rows cols rows' cols' : Int} {k : Token}

theorem Stays.sized (before : k.Stays 0 0) (after : k.Stays rows cols) : k.Sized rows cols where
  column free := by
    have old := (before.column free).2
    have new := (after.column free).2
    rw [columnAfter] at old
    omega
  row free := by
    have old := (before.row free).2
    rw [rowAfter] at old
    exact ⟨by omega, (after.row free).2⟩

/-- A token that is not lost is written as the moved one. -/
theorem token_eq_moved (proper : k.Proper) (before : k.Stays 0 0) (after : k.Stays rows cols) :
    Relocation.token rows cols k = (k.moved rows cols).toText := by
  have floats : ¬ k.Sinks rows cols := by
    rintro ⟨free, low, -⟩
    have row := (after.row free).1
    omega
  have column : ¬ (k.colFixed = false ∧ k.columnAfter cols < 0) := by
    rintro ⟨free, low⟩
    have column := (after.column free).1
    omega
  have row : ¬ (k.rowFixed = false ∧ k.rowAfter rows < 1) := by
    rintro ⟨free, low⟩
    have row := (after.row free).1
    omega
  rw [Relocation.token_eq proper (before.sized after), if_neg floats, relocated, if_neg column,
    if_neg row]
  split
  · rename_i fixed
    simp [moved, toText, fixed]
  · rfl

theorem Proper.moved (proper : k.Proper) (rows cols : Int) : (k.moved rows cols).Proper where
  upper := by
    simp only [Token.moved]
    split
    · exact proper.upper
    · exact List.all_eq_true.mp (Column.label_all_isUpper _)
  lettered := by
    simp only [Token.moved]
    split
    · exact proper.lettered
    · exact Column.label_ne_nil _
  decimal := by
    simp only [Token.moved]
    split
    · exact proper.decimal
    · exact fun c => Text.isDigit_of_mem_ofNat
  numbered := by
    simp only [Token.moved]
    split
    · exact proper.numbered
    · exact Text.ofNat_ne_nil _

theorem letters_moved (free : k.colFixed = false) :
    (k.moved rows cols).letters = Column.label (k.columnAfter cols).toNat := by
  simp [Token.moved, free]

theorem digits_moved (free : k.rowFixed = false) :
    (k.moved rows cols).digits = Text.ofNat (k.rowAfter rows).toNat := by
  simp [Token.moved, free]

theorem Stays.columnAfter_moved (stays : k.Stays rows cols) (free : k.colFixed = false) :
    (k.moved rows cols).columnAfter cols' = k.columnAfter (cols + cols') := by
  have low := (stays.column free).1
  rw [columnAfter, letters_moved free, Column.count_label]
  simp only [columnAfter] at low ⊢
  omega

theorem Stays.rowAfter_moved (stays : k.Stays rows cols) (free : k.rowFixed = false) :
    (k.moved rows cols).rowAfter rows' = k.rowAfter (rows + rows') := by
  have low := (stays.row free).1
  rw [rowAfter, digits_moved free, Text.toNat_ofNat]
  simp only [rowAfter] at low ⊢
  omega

theorem Stays.moved (stays : k.Stays rows cols) (further : k.Stays (rows + rows') (cols + cols')) :
    (k.moved rows cols).Stays rows' cols' where
  column free := by
    rw [stays.columnAfter_moved free]
    exact further.column free
  row free := by
    rw [stays.rowAfter_moved free]
    exact further.row free

theorem Stays.printed_moved (stays : k.Stays rows cols) : (k.moved rows cols).Printed := by
  intro free
  have low := (stays.row free).1
  rw [digits_moved (k := k) free]
  exact Text.head?_ofNat_ne_zero (by omega)

/-- Moves of a token add up. -/
theorem Stays.moved_moved (stays : k.Stays rows cols) (rows' cols' : Int) :
    (k.moved rows cols).moved rows' cols' = k.moved (rows + rows') (cols + cols') := by
  have letters : ((k.moved rows cols).moved rows' cols').letters =
      (k.moved (rows + rows') (cols + cols')).letters := by
    cases free : k.colFixed with
    | true => simp [Token.moved, free]
    | false =>
      rw [letters_moved (k := k.moved rows cols) free, letters_moved free,
        stays.columnAfter_moved free]
  have digits : ((k.moved rows cols).moved rows' cols').digits =
      (k.moved (rows + rows') (cols + cols')).digits := by
    cases free : k.rowFixed with
    | true => simp [Token.moved, free]
    | false =>
      rw [digits_moved (k := k.moved rows cols) free, digits_moved free,
        stays.rowAfter_moved free]
  exact (Token.mk.injEq ..).mpr ⟨rfl, letters, rfl, digits⟩

/-- A token that is not moved stays as it is written. -/
theorem Proper.moved_zero (proper : k.Proper) (printed : k.Printed) : k.moved 0 0 = k := by
  have letters : (k.moved 0 0).letters = k.letters := by
    cases free : k.colFixed with
    | true => simp [Token.moved, free]
    | false =>
      have ordinal : (k.columnAfter 0).toNat = Column.count k.letters - 1 := by
        rw [columnAfter]
        omega
      rw [letters_moved free, ordinal, Column.label_count proper.upper proper.lettered]
  have digits : (k.moved 0 0).digits = k.digits := by
    cases free : k.rowFixed with
    | true => simp [Token.moved, free]
    | false =>
      have number : (k.rowAfter 0).toNat = Text.toNat k.digits := by
        rw [rowAfter]
        omega
      rw [digits_moved free, number, Text.ofNat_toNat proper.decimal proper.numbered (printed free)]
  exact (Token.mk.injEq ..).mpr ⟨rfl, letters, rfl, digits⟩

end Moving

end Token

namespace Relocation

section Moving

variable {rows cols : Int} {t : Text}

/-- A formula in which no token is lost holds the moved tokens afterwards, and nothing else is
different. -/
theorem formula_eq_moved
    (stays : ∀ k : Token, k.In t → k.Printed ∧ k.Stays 0 0 ∧ k.Stays rows cols) :
    formula rows cols t =
      ((Segment.ofText t).map (Segment.mapToken (Token.moved rows cols))).flatMap
        Segment.toText := by
  have cut := Segment.cut_scan false t
  rw [List.flatMap_map]
  by_cases unmoved : rows = 0 ∧ cols = 0
  · obtain ⟨rfl, rfl⟩ := unmoved
    rw [formula, if_pos ⟨rfl, rfl⟩]
    refine cut.toText.symm.trans (List.flatMap_congr fun s found => ?_)
    cases s with
    | plain c => rfl
    | token k =>
      have inside : k.In t := Token.in_iff.mpr found
      rw [Segment.mapToken, inside.proper.moved_zero (stays k inside).1]
  · rw [formula, if_neg unmoved]
    refine List.flatMap_congr fun s found => ?_
    cases s with
    | plain c => rfl
    | token k =>
      have inside : k.In t := Token.in_iff.mpr found
      obtain ⟨-, before, after⟩ := stays k inside
      exact Token.token_eq_moved inside.proper before after

/-- The moved tokens are the tokens of the moved formula, in the same places. -/
theorem ofText_formula
    (stays : ∀ k : Token, k.In t → k.Printed ∧ k.Stays 0 0 ∧ k.Stays rows cols) :
    Segment.ofText (formula rows cols t) =
      (Segment.ofText t).map (Segment.mapToken (Token.moved rows cols)) := by
  have cut := (Segment.cut_scan false t).map (f := Token.moved rows cols) fun k found =>
    ⟨(Token.In.proper (Token.in_iff.mpr found)).moved rows cols, rfl⟩
  rw [formula_eq_moved stays]
  exact (Segment.cut_iff.mp cut).symm

theorem exists_of_in_formula
    (stays : ∀ k : Token, k.In t → k.Printed ∧ k.Stays 0 0 ∧ k.Stays rows cols) {k : Token}
    (found : k.In (formula rows cols t)) :
    ∃ old : Token, old.In t ∧ k = old.moved rows cols := by
  rw [Token.in_iff, ofText_formula stays] at found
  obtain ⟨s, old, same⟩ := List.mem_map.mp found
  cases s with
  | plain c => cases same
  | token k =>
    cases same
    exact ⟨k, Token.in_iff.mpr old, rfl⟩

end Moving

/-- Where no token is lost on the way and rows are written without leading zeros, a formula that is
moved and moved on is the one that is moved all the way, and moved back it is the one that it
was. -/
theorem formula_moved_on {rows cols : Int} {t : Text}
    (stays : ∀ k : Token, k.In t → k.Printed ∧ k.Stays 0 0 ∧ k.Stays rows cols) :
    (∀ rows' cols', (∀ k : Token, k.In t → k.Stays (rows + rows') (cols + cols')) →
      formula rows' cols' (formula rows cols t) = formula (rows + rows') (cols + cols') t) ∧
    formula (-rows) (-cols) (formula rows cols t) = t := by
  have on : ∀ rows' cols', (∀ k : Token, k.In t → k.Stays (rows + rows') (cols + cols')) →
      formula rows' cols' (formula rows cols t) = formula (rows + rows') (cols + cols') t := by
    intro rows' cols' further
    have stays' : ∀ k : Token, k.In (formula rows cols t) →
        k.Printed ∧ k.Stays 0 0 ∧ k.Stays rows' cols' := by
      intro k found
      obtain ⟨old, inside, rfl⟩ := exists_of_in_formula stays found
      have there := (stays old inside).2.2
      refine ⟨there.printed_moved, there.moved ?_, there.moved (further old inside)⟩
      rw [Int.add_zero, Int.add_zero]
      exact there
    rw [formula_eq_moved stays', ofText_formula stays, formula_eq_moved fun k inside =>
      ⟨(stays k inside).1, (stays k inside).2.1, further k inside⟩, List.map_map]
    congr 1
    refine List.map_congr_left fun s found => ?_
    cases s with
    | plain c => rfl
    | token k =>
      have there := (stays k (Token.in_iff.mpr found)).2.2
      exact congrArg Segment.token (there.moved_moved rows' cols')
  refine ⟨on, ?_⟩
  have back := on (-rows) (-cols) fun k inside => by
    rw [Int.add_right_neg, Int.add_right_neg]
    exact (stays k inside).2.1
  rw [back, Int.add_right_neg, Int.add_right_neg]
  exact if_pos ⟨rfl, rfl⟩

/-- From `Z9` by way of `AA10` to `Y12`, or back again; neither the token with both markers nor the
text between quotes moves. -/
theorem lastLetter_moved_on :
    let t := "Z9&$B$2&\"A1\"".toList
    Token.In ⟨false, ['Z'], false, ['9']⟩ t ∧
      (∀ k : Token, k.In t → k.Printed ∧ k.Stays 0 0 ∧ k.Stays 1 1) ∧
      (∀ k : Token, k.In t → k.Stays (1 + 2) (1 + -2)) ∧
      formula 1 1 t = "AA10&$B$2&\"A1\"".toList ∧
      formula 2 (-2) (formula 1 1 t) = formula (1 + 2) (1 + -2) t ∧
      formula (1 + 2) (1 + -2) t = "Y12&$B$2&\"A1\"".toList ∧
      formula (-1) (-1) (formula 1 1 t) = t := by
  intro t
  let first : Token := ⟨false, ['Z'], false, ['9']⟩
  let second : Token := ⟨true, ['B'], true, ['2']⟩
  have cut : Segment.ofText t =
      .token first :: .plain '&' :: .token second :: "&\"A1\"".toList.map .plain := by
    decide
  have tokens : ∀ k : Token, k.In t → k = first ∨ k = second := by
    intro k found
    rw [Token.in_iff, cut] at found
    simpa using found
  have stays : ∀ k : Token, k.In t → k.Printed ∧ k.Stays 0 0 ∧ k.Stays 1 1 := by
    intro k found
    rcases tokens k found with rfl | rfl
    · decide
    · decide
  have further : ∀ k : Token, k.In t → k.Stays (1 + 2) (1 + -2) := by
    intro k found
    rcases tokens k found with rfl | rfl
    · decide
    · decide
  have inside : first.In t := Token.in_iff.mpr (cut ▸ List.mem_cons_self)
  obtain ⟨on, back⟩ := formula_moved_on stays
  exact ⟨inside, stays, further, by decide, on 2 (-2) further, by decide, back⟩

end Relocation

end Spreadsheet

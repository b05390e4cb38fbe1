import Spreadsheet.Proofs.ColumnLabels
import Spreadsheet.Reference.Relocation

/-!
# References as they are written

A token that is written is read as one, with or without markers, whatever follows the last digit. So
an address that is written out is read back as itself, on its own, on either side of a colon, and
among the characters of a formula, where a move takes it to the address at the same distance.
-/

namespace Spreadsheet

namespace Text

theorem isUpper_iff {c : Char} : c.isUpper = true ↔ 65 ≤ c.toNat ∧ c.toNat ≤ 90 := by
  change decide (c.val ≥ 'A'.val ∧ c.val ≤ 'Z'.val) = true ↔ _
  rw [decide_eq_true_eq, ge_iff_le, UInt32.le_iff_toNat_le, UInt32.le_iff_toNat_le]
  exact Iff.rfl

theorem isDigit_iff {c : Char} : c.isDigit = true ↔ 48 ≤ c.toNat ∧ c.toNat ≤ 57 := by
  simp only [Char.isDigit, Bool.and_eq_true, decide_eq_true_eq, ge_iff_le, UInt32.le_iff_toNat_le]
  exact Iff.rfl

theorem not_isUpper_of_isDigit {c : Char} (h : c.isDigit = true) : c.isUpper = false := by
  rw [← Bool.not_eq_true, isUpper_iff]
  rw [isDigit_iff] at h
  omega

theorem not_isDigit_of_isUpper {c : Char} (h : c.isUpper = true) : c.isDigit = false := by
  rw [← Bool.not_eq_true, isDigit_iff]
  rw [isUpper_iff] at h
  omega

theorem isDigit_of_mem_ofNat {n : Nat} {c : Char} (h : c ∈ ofNat n) : c.isDigit = true :=
  Nat.isDigit_of_mem_toDigits (by omega) (by omega) h

theorem ofNat_ne_nil (n : Nat) : ofNat n ≠ [] :=
  Nat.toDigits_ne_nil

/-- A character that is neither an ASCII letter nor a digit nor a dollar sign ends a token. -/
def EndsToken (c : Char) : Prop :=
  c.isUpper = false ∧ c.isDigit = false ∧ c ≠ '$'

instance (c : Char) : Decidable (EndsToken c) :=
  inferInstanceAs (Decidable (_ ∧ _))

/-- A run of characters with a property ends before this text. -/
def Stops (p : Char → Bool) (rest : Text) : Prop :=
  ∀ c, rest.head? = some c → p c = false

theorem Stops.nil (p : Char → Bool) : Stops p [] := by
  intro c h
  cases h

theorem Stops.cons {p : Char → Bool} {c : Char} (h : p c = false) (rest : Text) :
    Stops p (c :: rest) := by
  intro d hd
  cases hd
  exact h

theorem Stops.append {p : Char → Bool} {t : Text} (some : t ≠ []) (h : ∀ c ∈ t, p c = false)
    (rest : Text) : Stops p (t ++ rest) := by
  obtain ⟨c, cs, rfl⟩ := List.exists_cons_of_ne_nil some
  exact .cons (h c List.mem_cons_self) (cs ++ rest)

theorem Stops.takeWhile_eq_nil {p : Char → Bool} {rest : Text} (stop : Stops p rest) :
    rest.takeWhile p = [] := by
  cases rest with
  | nil => rfl
  | cons c rest =>
    have out : ¬p c = true := by rw [stop c rfl]; decide
    exact List.takeWhile_cons_of_neg out

theorem Stops.dropWhile_eq_self {p : Char → Bool} {rest : Text} (stop : Stops p rest) :
    rest.dropWhile p = rest := by
  cases rest with
  | nil => rfl
  | cons c rest =>
    have out : ¬p c = true := by rw [stop c rfl]; decide
    exact List.dropWhile_cons_of_neg out

theorem Stops.mono {p q : Char → Bool} {rest : Text} (stop : Stops q rest)
    (h : ∀ c, p c = true → q c = true) : Stops p rest := by
  intro c first
  by_contra hit
  have := stop c first
  rw [h c (by simpa using hit)] at this
  cases this

theorem stops_dropWhile (p : Char → Bool) (t : Text) : Stops p (t.dropWhile p) := by
  intro c first
  have out := List.head?_dropWhile_not p t
  rw [first] at out
  exact out

theorem takeWhile_run {p : Char → Bool} {run rest : Text} (all : ∀ c ∈ run, p c = true)
    (stop : Stops p rest) : (run ++ rest).takeWhile p = run := by
  rw [List.takeWhile_append_of_pos all, stop.takeWhile_eq_nil, List.append_nil]

theorem dropWhile_run {p : Char → Bool} {run rest : Text} (all : ∀ c ∈ run, p c = true)
    (stop : Stops p rest) : (run ++ rest).dropWhile p = rest := by
  rw [List.dropWhile_append_of_pos all, stop.dropWhile_eq_self]

theorem takeWhile_stops {p : Char → Bool} (t : Text) {rest : Text} (stop : Stops p rest) :
    (t ++ rest).takeWhile p = t.takeWhile p := by
  rw [List.takeWhile_append]
  split
  · rename_i all
    rw [stop.takeWhile_eq_nil, List.append_nil]
    exact (List.takeWhile_sublist p).eq_of_length all |>.symm
  · rfl

theorem dropWhile_stops {p : Char → Bool} (t : Text) {rest : Text} (stop : Stops p rest) :
    (t ++ rest).dropWhile p = t.dropWhile p ++ rest := by
  have whole := List.takeWhile_append_dropWhile (p := p) (l := t ++ rest)
  rw [takeWhile_stops t stop] at whole
  refine List.append_cancel_left (whole.trans ?_)
  rw [← List.append_assoc, List.takeWhile_append_dropWhile]

/-- A number in decimal is nothing but digits. -/
theorem digits_ofNat (n : Nat) :
    (ofNat n).takeWhile Char.isDigit = ofNat n ∧ (ofNat n).dropWhile Char.isDigit = [] := by
  have taken := takeWhile_run (fun _ => isDigit_of_mem_ofNat (n := n)) (.nil Char.isDigit)
  have dropped := dropWhile_run (fun _ => isDigit_of_mem_ofNat (n := n)) (.nil Char.isDigit)
  rw [List.append_nil] at taken dropped
  exact ⟨taken, dropped⟩

theorem head?_ofNat_ne_zero {n : Nat} (pos : 0 < n) : (ofNat n).head? ≠ some '0' := by
  induction n using Nat.strongRecOn with
  | _ n ih =>
    rcases Nat.lt_or_ge n 10 with small | large
    · have first : ∀ d < 10, 0 < d → (Nat.digitChar d) ≠ '0' := by decide
      rw [ofNat, Nat.toDigits_of_lt_base small, List.head?_cons, ne_eq, Option.some.injEq]
      exact first n small pos
    · rw [ofNat, Nat.toDigits_of_base_le (by decide) large,
        List.head?_append_of_ne_nil _ Nat.toDigits_ne_nil]
      exact ih (n / 10) (by omega) (by omega)

end Text

namespace Token

theorem takeMarker_of_ne {c : Char} {t : Text} (h : c ≠ '$') :
    takeMarker (c :: t) = (false, c :: t) := by
  rw [takeMarker.eq_def]
  split
  · rename_i rest same
    cases same
    exact absurd rfl h
  · rfl

theorem takeMarker_append {t : Text} (some : t ≠ []) (h : '$' ∉ t) (rest : Text) :
    takeMarker (t ++ rest) = (false, t ++ rest) := by
  obtain ⟨c, cs, rfl⟩ := List.exists_cons_of_ne_nil some
  refine takeMarker_of_ne ?_
  rintro rfl
  exact h List.mem_cons_self

theorem dollar_notMem {p : Char → Bool} {t : Text} (all : ∀ c ∈ t, p c = true)
    (out : p '$' = false) : '$' ∉ t := by
  intro h
  rw [all '$' h] at out
  cases out

/-- A token that can be written: some capital letters and some digits. -/
structure Proper (k : Token) : Prop where
  upper : ∀ c ∈ k.letters, c.isUpper = true
  lettered : k.letters ≠ []
  decimal : ∀ c ∈ k.digits, c.isDigit = true
  numbered : k.digits ≠ []

theorem takeMarker_marker (fixed : Bool) {t : Text} (some : t ≠ []) (h : '$' ∉ t) (rest : Text) :
    takeMarker (marker fixed ++ (t ++ rest)) = (fixed, t ++ rest) := by
  cases fixed with
  | false => exact takeMarker_append some h rest
  | true => rfl

theorem Proper.toText_ne_nil {k : Token} (proper : k.Proper) : k.toText ≠ [] := by
  intro empty
  have letters : k.letters = [] := by
    simp only [toText, List.append_eq_nil_iff] at empty
    exact empty.1.1.2
  exact proper.lettered letters

/-- Only capital letters, digits and markers are written. -/
theorem Proper.mem_toText {k : Token} (proper : k.Proper) {c : Char} (h : c ∈ k.toText) :
    c.isUpper = true ∨ c.isDigit = true ∨ c = '$' := by
  have marked : ∀ {fixed : Bool}, c ∈ marker fixed → c = '$' := by
    intro fixed h
    cases fixed with
    | true => exact List.mem_singleton.mp h
    | false => cases h
  simp only [toText, List.mem_append] at h
  rcases h with ((col | letter) | row) | digit
  · exact .inr (.inr (marked col))
  · exact .inl (proper.upper c letter)
  · exact .inr (.inr (marked row))
  · exact .inr (.inl (proper.decimal c digit))

theorem Proper.notMem_toText {k : Token} (proper : k.Proper) {c : Char}
    (ends : Text.EndsToken c) : c ∉ k.toText := by
  obtain ⟨not_upper, not_digit, not_dollar⟩ := ends
  intro h
  rcases proper.mem_toText h with upper | digit | dollar
  · rw [upper] at not_upper
    cases not_upper
  · rw [digit] at not_digit
    cases not_digit
  · exact not_dollar dollar

/-- A token that is written is read back, with all of its digits. -/
theorem Proper.atFront? {k : Token} {rest : Text} (proper : k.Proper)
    (stop : Text.Stops Char.isDigit rest) : atFront? (k.toText ++ rest) = some k := by
  have decimal : ∀ c ∈ k.digits, c.isUpper = false := fun c hc =>
    Text.not_isUpper_of_isDigit (proper.decimal c hc)
  have gap : Text.Stops Char.isUpper (marker k.rowFixed ++ (k.digits ++ rest)) := by
    cases k.rowFixed with
    | false => exact .append proper.numbered decimal rest
    | true => exact .cons (by decide) _
  have front := takeMarker_marker k.colFixed proper.lettered
    (dollar_notMem proper.upper (by decide)) (marker k.rowFixed ++ (k.digits ++ rest))
  have middle := takeMarker_marker k.rowFixed proper.numbered
    (dollar_notMem proper.decimal (by decide)) rest
  have written : k.toText ++ rest =
      marker k.colFixed ++ (k.letters ++ (marker k.rowFixed ++ (k.digits ++ rest))) := by
    simp only [toText, List.append_assoc]
  simp only [Token.atFront?, written, front, Text.dropWhile_run proper.upper gap, middle,
    Text.takeWhile_run proper.upper gap, Text.takeWhile_run proper.decimal stop]
  exact if_pos ⟨proper.lettered, proper.numbered⟩

/-- Letters before a character that ends a token, or no letters, are no token. -/
theorem atFront?_letters {letters : Text} (upper : ∀ c ∈ letters, c.isUpper = true) {c : Char}
    (ends : Text.EndsToken c) (rest : Text) : atFront? (letters ++ c :: rest) = none := by
  obtain ⟨not_upper, not_digit, not_dollar⟩ := ends
  have front : takeMarker (letters ++ c :: rest) = (false, letters ++ c :: rest) := by
    cases letters with
    | nil => exact takeMarker_of_ne not_dollar
    | cons l ls =>
      exact takeMarker_append (List.cons_ne_nil l ls) (dollar_notMem upper (by decide)) (c :: rest)
  have no_digits : (c :: rest).takeWhile Char.isDigit = [] :=
    (Text.Stops.cons not_digit rest).takeWhile_eq_nil
  simp only [atFront?, front, Text.dropWhile_run upper (.cons not_upper rest),
    takeMarker_of_ne not_dollar, no_digits]
  simp

end Token

/-- The token of an address without markers. -/
def Address.token (a : Address) : Token :=
  ⟨false, a.col, false, Text.ofNat (a.row + 1)⟩

namespace Address

/-- An address that can be written: a label of capital letters and a row that counts as a size. -/
structure Writable (a : Address) : Prop where
  upper : ∀ c ∈ a.col, c.isUpper = true
  labelled : a.col ≠ []
  size : a.row + 1 < sizeBound

variable {a : Address}

theorem token_toText (a : Address) : a.token.toText = a.toText := by
  simp [token, Token.toText, Token.marker, toText]

theorem Writable.toText_ne_nil (writable : a.Writable) : a.toText ≠ [] := by
  simp [toText, writable.labelled]

/-- Only capital letters and digits are written. -/
theorem Writable.mem_toText (writable : a.Writable) {c : Char} (h : c ∈ a.toText) :
    c.isUpper = true ∨ c.isDigit = true := by
  rcases List.mem_append.mp h with label | row
  · exact .inl (writable.upper c label)
  · exact .inr (Text.isDigit_of_mem_ofNat row)

theorem Writable.proper (writable : a.Writable) : a.token.Proper :=
  ⟨writable.upper, writable.labelled, fun _ hc => Text.isDigit_of_mem_ofNat hc,
    Text.ofNat_ne_nil _⟩

theorem Writable.row? (writable : a.Writable) :
    Address.row? (Text.ofNat (a.row + 1)) = some a.row := by
  rw [Address.row?, Text.toNat_ofNat]
  exact if_pos ⟨by omega, writable.size⟩

end Address

namespace Reference

/-- The token that a reference is written as. -/
def token (r : Reference) : Token :=
  ⟨r.colFixed, r.col, r.rowFixed, Text.ofNat (r.row + 1)⟩

/-- A reference can be written if its address can. -/
def Writable (r : Reference) : Prop :=
  r.address.Writable

variable {r : Reference}

theorem Writable.proper (writable : r.Writable) : r.token.Proper :=
  ⟨writable.upper, writable.labelled, fun _ hc => Text.isDigit_of_mem_ofNat hc,
    Text.ofNat_ne_nil _⟩

/-- A reference that is written is read back, with its markers. -/
theorem Writable.parse (writable : r.Writable) : Reference.parse r.toText = .ok r := by
  have front := writable.proper.atFront? (Text.Stops.nil _)
  rw [List.append_nil] at front
  have first : Token.first? r.token.toText = some r.token := by
    obtain ⟨c, cs, written⟩ := List.exists_cons_of_ne_nil writable.proper.toText_ne_nil
    rw [written] at front ⊢
    rw [Token.first?, front]
  have row : Address.row? r.token.digits = some r.row := Address.Writable.row? writable
  change Reference.parse r.token.toText = .ok r
  rw [Reference.parse, first, Option.bind_some, Reference.ofToken?, row]
  rfl

theorem eq_of_parse_error {t : Text} {e : FormulaError} (h : Reference.parse t = .error e) :
    e = .invalidReference t := by
  rw [Reference.parse] at h
  split at h
  · cases h
  · cases h
    rfl

end Reference

/-- An address is read back as a reference without markers. -/
theorem Address.Writable.parse {a : Address} (writable : a.Writable) :
    Reference.parse a.toText = .ok ⟨a.col, a.row, false, false⟩ := by
  have plain : Reference.Writable ⟨a.col, a.row, false, false⟩ := writable
  rw [← a.token_toText]
  exact plain.parse

namespace RangeReference

/-- Two references around a colon are read back as a range. -/
theorem parse_toText {r : RangeReference} (start : r.start.Writable) (stop : r.stop.Writable) :
    RangeReference.parse r.toText = .ok r := by
  have no_colon : ∀ {x : Reference}, x.Writable → ∀ c ∈ x.toText, (c == ':') = false := by
    intro x writable c hc
    rw [beq_eq_false_iff_ne]
    rintro rfl
    exact writable.proper.notMem_toText (by decide) hc
  have parts : r.toText.splitOn ':' = [r.start.toText, r.stop.toText] := by
    rw [toText, List.splitOn,
      List.splitOnP_append_cons_of_forall_mem (no_colon start) ':' (by decide),
      List.splitOnP_eq_singleton (no_colon stop)]
  rw [RangeReference.parse, parts]
  dsimp only
  rw [start.parse, stop.parse]
  rfl

/-- Two addresses around a colon are read back as a range without markers. -/
theorem parse_written {a b : Address} (ha : a.Writable) (hb : b.Writable) :
    RangeReference.parse (a.toText ++ ':' :: b.toText) =
      .ok ⟨⟨a.col, a.row, false, false⟩, ⟨b.col, b.row, false, false⟩⟩ := by
  rw [← a.token_toText, ← b.token_toText]
  exact parse_toText (r := ⟨⟨a.col, a.row, false, false⟩, ⟨b.col, b.row, false, false⟩⟩) ha hb

end RangeReference

namespace Segment

/-- Characters that still belong to a token are passed over. -/
theorem scan_skip (quoted : Bool) (skipped rest : Text) :
    scan quoted skipped.length (skipped ++ rest) = scan quoted 0 rest := by
  induction skipped with
  | nil => rfl
  | cons c cs ih => rw [List.length_cons, List.cons_append, scan, ih]

theorem scan_proper {k : Token} (proper : k.Proper) {rest : Text}
    (stop : Text.Stops Char.isDigit rest) :
    scan false 0 (k.toText ++ rest) = token k :: scan false 0 rest := by
  have front := proper.atFront? stop
  obtain ⟨c, cs, written⟩ := List.exists_cons_of_ne_nil proper.toText_ne_nil
  have no_quote : c ≠ '"' := by
    rintro rfl
    exact proper.notMem_toText (by decide) (written ▸ List.mem_cons_self)
  have length : k.toText.length - 1 = cs.length := by rw [written]; rfl
  rw [written, List.cons_append] at front ⊢
  rw [scan, if_neg no_quote, front]
  simp only [Bool.false_eq_true, if_false, length]
  rw [scan_skip]

theorem scan_token {a : Address} (writable : a.Writable) {rest : Text}
    (stop : Text.Stops Char.isDigit rest) :
    scan false 0 (a.toText ++ rest) = token a.token :: scan false 0 rest := by
  rw [← a.token_toText]
  exact scan_proper writable.proper stop

theorem scan_plain {c : Char} (no_quote : c ≠ '"') {rest : Text}
    (no_token : Token.atFront? (c :: rest) = none) :
    scan false 0 (c :: rest) = plain c :: scan false 0 rest := by
  rw [scan, if_neg no_quote, no_token]
  simp

/-- A character that ends tokens is no part of one. -/
theorem scan_end {c : Char} (no_quote : c ≠ '"') (ends : Text.EndsToken c) (rest : Text) :
    scan false 0 (c :: rest) = plain c :: scan false 0 rest := by
  have no_token : Token.atFront? ([] ++ c :: rest) = none :=
    Token.atFront?_letters (by simp) ends rest
  exact scan_plain no_quote no_token

/-- The letters of a name are no part of a token when no digit follows them. -/
theorem scan_letters {letters : Text} (upper : ∀ c ∈ letters, c.isUpper = true) {c : Char}
    (ends : Text.EndsToken c) (rest : Text) :
    scan false 0 (letters ++ c :: rest) =
      letters.map plain ++ scan false 0 (c :: rest) := by
  induction letters with
  | nil => rfl
  | cons l ls ih =>
    have no_quote : l ≠ '"' := by
      rintro rfl
      exact absurd (upper '"' List.mem_cons_self) (by decide)
    have no_token : Token.atFront? (l :: (ls ++ c :: rest)) = none :=
      Token.atFront?_letters upper ends rest
    rw [List.cons_append, scan_plain no_quote no_token,
      ih fun x hx => upper x (List.mem_cons_of_mem _ hx)]
    rfl

end Segment

namespace Relocation

theorem flatMap_plain (rows cols : Int) (t : Text) :
    (t.map Segment.plain).flatMap (segment rows cols) = t := by
  induction t with
  | nil => rfl
  | cons c rest ih =>
    rw [List.map_cons, List.flatMap_cons, ih]
    rfl

/-- A move by some rows and columns takes one written address to another. -/
structure Moves (rows cols : Int) (x x' : Address) : Prop where
  writable : x.Writable
  stay : rows = 0 → cols = 0 → x' = x
  token : Relocation.token rows cols x.token = x'.toText

/-- A column of generated labels below the last size can be written. -/
theorem writable_label {row col : Nat} (hrow : row + 1 < sizeBound) :
    Address.Writable ⟨row, Column.label col⟩ where
  upper := List.all_eq_true.mp (Column.label_all_isUpper col)
  labelled := Column.label_ne_nil col
  size := hrow

/-- Under generated labels a move goes by the positions. -/
theorem moves_label {row col row' col' : Nat} {rows cols : Int} (hrow : row + 1 < sizeBound)
    (hrow' : row' + 1 < sizeBound) (hcol : col + 1 < sizeBound) (hcol' : col' < sizeBound)
    (rows_eq : (row : Int) + rows = row') (cols_eq : (col : Int) + cols = col') :
    Moves rows cols ⟨row, Column.label col⟩ ⟨row', Column.label col'⟩ where
  writable := writable_label hrow
  stay := by
    rintro rfl rfl
    rw [show row' = row by omega, show col' = col by omega]
  token := by
    have target : ((row + 1 : Nat) : Int) + rows = (row' + 1 : Nat) := by omega
    have inside : row + 1 < sizeBound ∧ (0 : Int) ≤ (row' + 1 : Nat) ∧
        ((row' + 1 : Nat) : Int) < sizeBound := ⟨hrow, by omega, by exact_mod_cast hrow'⟩
    have shifted : shiftRow (Text.ofNat (row + 1)) rows = .row (row' + 1) := by
      simp only [shiftRow, Text.toNat_ofNat, target]
      rw [if_pos inside, if_neg (by omega), Int.toNat_natCast]
    simp only [token, Address.token, Bool.false_eq_true, false_and, if_false,
      Column.shift?_label hcol hcol' cols_eq, shifted]
    simp [Token.toText, Token.marker, Address.toText]

end Relocation

end Spreadsheet

import Spreadsheet.Proofs.Segments

/-!
# The cell that a text mentions

A text mentions a cell wherever digits stand behind capital letters, with one dollar sign between
them or none. The token that starts first is the one whose digits come first, whatever else the text
holds: a token that has its letters cut short, or leaves out a dollar sign before them, would start
further to the right. So a text is read as a reference exactly when the first cell that it mentions
has a row that is a size, and a reference that is written is read as it was.
-/

namespace Spreadsheet

namespace Token

/-- In a text that begins with `u` no token can be read at any character of `u`. -/
def NoneWithin (u t : Text) : Prop :=
  ∀ u' v' k', t = u' ++ v' → atFront? v' = some k' → u.length ≤ u'.length

/-- The first token starts where one can be read, and none can be read further to the left. -/
theorem exists_of_first? {t : Text} {k : Token} (h : first? t = some k) :
    ∃ u v, t = u ++ v ∧ atFront? v = some k ∧ NoneWithin u t := by
  induction t with
  | nil => cases h
  | cons c rest ih =>
    rw [first?] at h
    cases here : atFront? (c :: rest) with
    | some k' =>
      rw [here] at h
      cases h
      exact ⟨[], c :: rest, rfl, here, fun u' _ _ _ _ => Nat.zero_le u'.length⟩
    | none =>
      rw [here] at h
      obtain ⟨u, v, rfl, found, least⟩ := ih h
      refine ⟨c :: u, v, rfl, found, ?_⟩
      intro u' v' k' cut later
      cases u' with
      | nil =>
        rw [← List.nil_append v', ← cut, here] at later
        cases later
      | cons d u' => exact Nat.succ_le_succ (least u' v' k' (List.cons.inj cut).2 later)

theorem first?_append_ne_none (u : Text) {v : Text} {k : Token} (h : atFront? v = some k) :
    first? (u ++ v) ≠ none := by
  induction u with
  | nil =>
    cases v with
    | nil => cases h
    | cons c rest => simp [first?, h]
  | cons c u ih =>
    rw [List.cons_append, first?]
    split
    · exact Option.some_ne_none _
    · exact ih

/-- A token without a marker that could start one character earlier would do so. -/
theorem NoneWithin.last {u back : Text} {k : Token} (least : NoneWithin u (u ++ (k.toText ++ back)))
    (proper : k.Proper) (stop : Text.Stops Char.isDigit back)
    (free : k.colFixed = false) {c : Char} (last : u.getLast? = some c) :
    c.isUpper = false ∧ c ≠ '$' := by
  obtain ⟨u, rfl⟩ := List.getLast?_eq_some_iff.mp last
  have nowhere : ∀ k' : Token, k'.Proper → k'.toText = c :: k.toText → False := by
    intro k' proper' longer
    have earlier := least u (k'.toText ++ back) k'
      (by rw [longer, List.append_assoc]; rfl) (proper'.atFront? stop)
    rw [List.length_append, List.length_singleton] at earlier
    omega
  constructor
  · by_contra hit
    have upper : ∀ d ∈ c :: k.letters, d.isUpper = true :=
      List.forall_mem_cons.mpr ⟨by simpa using hit, proper.upper⟩
    exact nowhere { k with letters := c :: k.letters }
      ⟨upper, List.cons_ne_nil _ _, proper.decimal, proper.numbered⟩
      (by simp [toText, marker, free])
  · rintro rfl
    exact nowhere { k with colFixed := true }
      ⟨proper.upper, proper.lettered, proper.decimal, proper.numbered⟩
      (by simp [toText, marker, free])

end Token

/-- A run of digits behind capital letters, one dollar sign between them or none, and the text on
either side. -/
structure Mention where
  front : Text
  letters : Text
  rowFixed : Bool
  digits : Text
  back : Text
deriving DecidableEq, Repr

namespace Mention

/-- What stands before the digits. -/
def before (m : Mention) : Text :=
  m.front ++ (m.letters ++ Token.marker m.rowFixed)

/-- The text has the mention. No letter goes before its letters, and no digit behind its digits. -/
structure In (m : Mention) (t : Text) : Prop where
  whole : t = m.before ++ (m.digits ++ m.back)
  upper : ∀ c ∈ m.letters, c.isUpper = true
  lettered : m.letters ≠ []
  decimal : ∀ c ∈ m.digits, c.isDigit = true
  numbered : m.digits ≠ []
  begins : Text.Stops Char.isUpper m.front.reverse
  ends : Text.Stops Char.isDigit m.back

/-- The text has the mention, and the digits of no other begin further to the left. -/
def IsFirst (m : Mention) (t : Text) : Prop :=
  m.In t ∧ ∀ other : Mention, other.In t → m.before.length ≤ other.before.length

/-- Whether a dollar sign stands directly before the letters. -/
def colFixed (m : Mention) : Bool :=
  m.front.getLast? == some '$'

def token (m : Mention) : Token :=
  ⟨m.colFixed, m.letters, m.rowFixed, m.digits⟩

section In

variable {m m' : Mention} {t : Text}

/-- A token can be read where the letters begin. -/
theorem In.exists_atFront? (h : m.In t) :
    ∃ v k, t = m.front ++ v ∧ Token.atFront? v = some k := by
  have proper : Token.Proper ⟨false, m.letters, m.rowFixed, m.digits⟩ :=
    ⟨h.upper, h.lettered, h.decimal, h.numbered⟩
  refine ⟨_, _, ?_, proper.atFront? h.ends⟩
  rw [h.whole]
  simp [before, Token.toText, Token.marker]

/-- From the right: the marker, the letters, and what is before them. -/
theorem In.takeMarker_reverse (h : m.In t) :
    Token.takeMarker m.before.reverse = (m.rowFixed, m.letters.reverse ++ m.front.reverse) := by
  have marker : (Token.marker m.rowFixed).reverse = Token.marker m.rowFixed := by
    cases m.rowFixed <;> rfl
  have no_dollar : '$' ∉ m.letters.reverse :=
    fun dollar => Token.dollar_notMem h.upper (by decide) (List.mem_reverse.mp dollar)
  rw [before, List.reverse_append, List.reverse_append, marker, List.append_assoc]
  exact Token.takeMarker_marker _ (by simpa using h.lettered) no_dollar _

/-- Where its digits begin there is one mention. -/
theorem In.eq_of_length (h : m.In t) (h' : m'.In t)
    (same : m.before.length = m'.before.length) : m = m' := by
  obtain ⟨left, right⟩ := List.append_inj (h.whole.symm.trans h'.whole) same
  have digits := Text.takeWhile_run h.decimal h.ends
  have back := Text.dropWhile_run h.decimal h.ends
  rw [right, Text.takeWhile_run h'.decimal h'.ends] at digits
  rw [right, Text.dropWhile_run h'.decimal h'.ends] at back
  have backwards := h.takeMarker_reverse
  rw [left, h'.takeMarker_reverse] at backwards
  obtain ⟨fixed, remains⟩ := Prod.mk.inj backwards
  have upper : ∀ {m : Mention}, m.In t → ∀ c ∈ m.letters.reverse, c.isUpper = true :=
    fun h c hc => h.upper c (List.mem_reverse.mp hc)
  have letters := Text.takeWhile_run (upper h) h.begins
  have front := Text.dropWhile_run (upper h) h.begins
  rw [← remains, Text.takeWhile_run (upper h') h'.begins] at letters
  rw [← remains, Text.dropWhile_run (upper h') h'.begins] at front
  cases m
  cases m'
  simp only [Mention.mk.injEq]
  exact ⟨List.reverse_injective front.symm, List.reverse_injective letters.symm, fixed.symm,
    digits.symm, back.symm⟩

/-- The digits of a mention begin with a digit of the text. -/
theorem In.exists_isDigit (h : m.In t) :
    ∃ c, t[m.before.length]? = some c ∧ c.isDigit = true := by
  obtain ⟨c, rest, digits⟩ := List.exists_cons_of_ne_nil h.numbered
  refine ⟨c, ?_, h.decimal c (digits ▸ List.mem_cons_self)⟩
  rw [h.whole, List.getElem?_append_right (Nat.le_refl _), digits, Nat.sub_self]
  rfl

/-- Among characters that are no digits no mention has its digits. -/
theorem In.length_le {u w rest : Text} (h : m.In (u ++ (w ++ rest)))
    (plain : ∀ c ∈ w, c.isDigit = false) (behind : u.length ≤ m.before.length) :
    (u ++ w).length ≤ m.before.length := by
  obtain ⟨c, here, digit⟩ := h.exists_isDigit
  by_contra less
  rw [List.length_append] at less
  have inside : m.before.length - u.length < w.length := by omega
  rw [List.getElem?_append_right behind, List.getElem?_append_left inside] at here
  have other := plain c (List.mem_of_getElem? here)
  rw [digit] at other
  cases other

end In

/-! ## The first mention -/

section First

variable {u back : Text} {k : Token}

/-- What a token mentions between two texts. -/
def ofToken (u : Text) (k : Token) (back : Text) : Mention :=
  ⟨u ++ Token.marker k.colFixed, k.letters, k.rowFixed, k.digits, back⟩

theorem before_ofToken : (ofToken u k back).before =
    u ++ (Token.marker k.colFixed ++ (k.letters ++ Token.marker k.rowFixed)) :=
  List.append_assoc _ _ _

theorem whole_ofToken :
    u ++ (k.toText ++ back) = (ofToken u k back).before ++ (k.digits ++ back) := by
  simp only [before_ofToken, Token.toText, List.append_assoc]

theorem not_isDigit_of_mem_marker {fixed : Bool} {c : Char} (h : c ∈ Token.marker fixed) :
    c.isDigit = false := by
  cases fixed with
  | false => cases h
  | true =>
    cases List.mem_singleton.mp h
    decide

variable (proper : k.Proper) (stop : Text.Stops Char.isDigit back)
  (least : Token.NoneWithin u (u ++ (k.toText ++ back)))

include proper stop least

theorem last_ofToken {c : Char} (last : (ofToken u k back).front.getLast? = some c) :
    c.isUpper = false ∧ (c = '$' ↔ k.colFixed = true) := by
  cases fixed : k.colFixed with
  | true =>
    simp only [ofToken, fixed, Token.marker, if_true, List.getLast?_concat,
      Option.some.injEq] at last
    subst last
    decide
  | false =>
    simp only [ofToken, fixed, Token.marker, Bool.false_eq_true, if_false,
      List.append_nil] at last
    obtain ⟨low, other⟩ := least.last proper stop fixed last
    exact ⟨low, iff_of_false other Bool.false_ne_true⟩

theorem in_ofToken : (ofToken u k back).In (u ++ (k.toText ++ back)) where
  whole := whole_ofToken
  upper := proper.upper
  lettered := proper.lettered
  decimal := proper.decimal
  numbered := proper.numbered
  begins := by
    intro c first
    rw [List.head?_reverse] at first
    exact (last_ofToken proper stop least first).1
  ends := stop

theorem token_ofToken : (ofToken u k back).token = k := by
  have fixed : (ofToken u k back).colFixed = k.colFixed := by
    rw [Bool.eq_iff_iff, colFixed, beq_iff_eq]
    constructor
    · intro last
      exact (last_ofToken proper stop least last).2.mp rfl
    · intro fixed
      simp [ofToken, fixed, Token.marker]
  rw [token, fixed]
  rfl

theorem isFirst_ofToken : (ofToken u k back).IsFirst (u ++ (k.toText ++ back)) := by
  refine ⟨in_ofToken proper stop least, fun other has => ?_⟩
  obtain ⟨v', k', cut, read⟩ := has.exists_atFront?
  have behind : u.length ≤ other.before.length := by
    have := least other.front v' k' cut read
    rw [before, List.length_append]
    omega
  rw [whole_ofToken, before_ofToken, List.append_assoc] at has
  rw [before_ofToken]
  refine has.length_le ?_ behind
  intro c hc
  rcases List.mem_append.mp hc with marker | rest
  · exact not_isDigit_of_mem_marker marker
  · rcases List.mem_append.mp rest with letter | marker
    · exact Text.not_isDigit_of_isUpper (proper.upper c letter)
    · exact not_isDigit_of_mem_marker marker

end First

/-- The token that starts first is the one of the first mention. -/
theorem first?_eq_some_iff {t : Text} {k : Token} :
    Token.first? t = some k ↔ ∃ m : Mention, m.IsFirst t ∧ m.token = k := by
  have mentioned : ∀ {k : Token}, Token.first? t = some k →
      ∃ m : Mention, m.IsFirst t ∧ m.token = k := by
    intro k h
    obtain ⟨u, v, rfl, found, least⟩ := Token.exists_of_first? h
    obtain ⟨proper, back, rfl, stop⟩ := Token.exists_of_atFront? found
    exact ⟨_, isFirst_ofToken proper stop least, token_ofToken proper stop least⟩
  constructor
  · exact mentioned
  · rintro ⟨m, first, rfl⟩
    obtain ⟨v, k, cut, read⟩ := first.1.exists_atFront?
    have some := Token.first?_append_ne_none m.front read
    rw [← cut] at some
    obtain ⟨k', found⟩ := Option.ne_none_iff_exists'.mp some
    obtain ⟨m', first', rfl⟩ := mentioned found
    have same := Nat.le_antisymm (first.2 m' first'.1) (first'.2 m first.1)
    rw [found, first.1.eq_of_length first'.1 same]

end Mention

namespace Reference

theorem ofToken?_eq_some_iff {k : Token} {r : Reference} : ofToken? k = some r ↔
    1 ≤ Text.toNat k.digits ∧ Text.toNat k.digits < sizeBound ∧
      r = ⟨k.letters, Text.toNat k.digits - 1, k.colFixed, k.rowFixed⟩ := by
  rw [ofToken?, Address.row?]
  split
  · rename_i size
    rw [Option.map_some, Option.some.injEq, eq_comm, and_iff_right size.1, and_iff_right size.2]
  · rename_i none
    refine iff_of_false (Option.some_ne_none _).symm ?_
    rintro ⟨pos, size, -⟩
    exact none ⟨pos, size⟩

theorem parse_eq_ok_iff {t : Text} {r : Reference} :
    Reference.parse t = .ok r ↔ ∃ k, Token.first? t = some k ∧ ofToken? k = some r := by
  rw [Reference.parse, ← Option.bind_eq_some_iff]
  split
  · rename_i found
    rw [found, Except.ok.injEq, Option.some.injEq]
  · rename_i none
    rw [none]
    constructor
    · intro h
      cases h
    · intro h
      cases h

/-- What is read as a reference can be written as one. -/
theorem writable_of_parse {t : Text} {r : Reference} (h : Reference.parse t = .ok r) :
    r.Writable := by
  obtain ⟨k, found, read⟩ := parse_eq_ok_iff.mp h
  obtain ⟨u, v, -, front, -⟩ := Token.exists_of_first? found
  obtain ⟨proper, -⟩ := Token.exists_of_atFront? front
  obtain ⟨pos, size, rfl⟩ := ofToken?_eq_some_iff.mp read
  refine ⟨proper.upper, proper.lettered, ?_⟩
  change Text.toNat k.digits - 1 + 1 < sizeBound
  omega

/-- A text is a reference if and only if the first cell that it mentions has a row that counts as a
size; it is the reference to that cell, with the markers that stand before its letters and before
its digits. References that are written, alone or around a colon, are read as they were. -/
theorem parse_first_mention :
    (∀ t r, Reference.parse t = .ok r ↔ ∃ m : Mention, m.IsFirst t ∧
      1 ≤ Text.toNat m.digits ∧ Text.toNat m.digits < sizeBound ∧
      r = ⟨m.letters, Text.toNat m.digits - 1, m.colFixed, m.rowFixed⟩) ∧
    (∀ t e, Reference.parse t = .error e → e = .invalidReference t) ∧
    (∀ r : Reference, r.Writable → Reference.parse r.toText = .ok r) ∧
    ∀ r r' : Reference, r.Writable → r'.Writable →
      RangeReference.parse (RangeReference.toText ⟨r, r'⟩) = .ok ⟨r, r'⟩ := by
  refine ⟨fun t r => ?_, fun t e => eq_of_parse_error, fun r writable => writable.parse,
    fun r r' start stop => RangeReference.parse_toText start stop⟩
  rw [parse_eq_ok_iff]
  constructor
  · rintro ⟨k, found, refers⟩
    obtain ⟨m, first, rfl⟩ := Mention.first?_eq_some_iff.mp found
    exact ⟨m, first, ofToken?_eq_some_iff.mp refers⟩
  · rintro ⟨m, first, refers⟩
    exact ⟨m.token, Mention.first?_eq_some_iff.mpr ⟨m, first, rfl⟩, ofToken?_eq_some_iff.mpr refers⟩

/-- Markers and zeros, and the last row there can be. -/
theorem lastRow_read :
    let r : Reference := ⟨"AB".toList, 18446744073709551614, true, false⟩
    let r' : Reference := ⟨"C".toList, 6, false, true⟩
    (∃ m : Mention, m.IsFirst "7 of x$$BC$070y, D4".toList ∧ 1 ≤ Text.toNat m.digits ∧
        Text.toNat m.digits < sizeBound ∧ (⟨"BC".toList, 69, true, true⟩ : Reference) =
          ⟨m.letters, Text.toNat m.digits - 1, m.colFixed, m.rowFixed⟩) ∧
      r.Writable ∧ r'.Writable ∧ Reference.parse r.toText = .ok r ∧
      RangeReference.parse (RangeReference.toText ⟨r, r'⟩) = .ok ⟨r, r'⟩ := by
  intro r r'
  obtain ⟨first, -, written, ranges⟩ := parse_first_mention
  have last : r.Writable := ⟨List.all_eq_true.mp rfl, by decide, by decide⟩
  have seventh : r'.Writable := ⟨List.all_eq_true.mp rfl, by decide, by decide⟩
  exact ⟨(first _ _).mp (by decide), last, seventh, written r last, ranges r r' last seventh⟩

end Reference

end Spreadsheet

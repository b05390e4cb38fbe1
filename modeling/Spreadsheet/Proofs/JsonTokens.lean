import Spreadsheet.Json.Number
import Spreadsheet.Json.Reader
import Spreadsheet.Proofs.ReferenceText

/-!
# Strings and number literals of JSON

A string is read back character by character, in whatever way each of them is escaped. A literal is
put together from a sign, digits, a fraction and an exponent, and each of these parts is read without
regard to what follows as long as that does not go on with the number. So both are read the same
inside a longer text as on their own.
-/

namespace Spreadsheet.Json

open Text

theorem hexDigits_reads : ∀ n < 32, (hexDigits n).length = 4 ∧
    ((hexDigits n).all fun c => (Unicode.hexDigit? c).isSome) = true ∧
    Unicode.hexValue (hexDigits n) = n := by
  decide

theorem codeUnit?_append {unit : Text} (length : unit.length = 4)
    (hex : (unit.all fun c => (Unicode.hexDigit? c).isSome) = true) (rest : Text) :
    codeUnit? (unit ++ rest) = some (Unicode.hexValue unit, rest) := by
  match unit, length with
  | [a, b, c, d], _ => exact if_pos hex

/-- A control character is read back from its code. -/
theorem escapePiece?_control {c : Char} (control : c.toNat < 0x20) (rest : Text) :
    escapePiece? ('u' :: (hexDigits c.toNat ++ rest)) = some (.char c, rest) := by
  obtain ⟨length, hex, value⟩ := hexDigits_reads c.toNat control
  simp only [escapePiece?, codeUnit?_append length hex rest, value]
  have low : ¬(0xD800 ≤ c.toNat ∧ c.toNat < 0xDC00) := by omega
  have high : ¬(0xDC00 ≤ c.toNat ∧ c.toNat < 0xE000) := by omega
  simp [low, high, Char.ofNat_toNat]

section Strings

variable {fuel : Nat} {read : Text}

theorem stringFrom?_escaped {c : Char} {code rest : Text}
    (h : escapePiece? (code ++ rest) = some (.char c, rest)) :
    stringFrom? (fuel + 1) (some read) ('\\' :: (code ++ rest)) =
      stringFrom? fuel (some (c :: read)) rest := by
  simp [stringFrom?, h]

/-- One character is taken off the front of a string, whatever way it is written. -/
theorem stringFrom?_escape (c : Char) (rest : Text) :
    stringFrom? (fuel + 1) (some read) (escape c ++ rest) =
      stringFrom? fuel (some (c :: read)) rest := by
  unfold escape
  split
  · rfl
  · rfl
  · rfl
  · rfl
  · rfl
  · rfl
  · rfl
  · rename_i quote backslash _ _ _ _ _
    split
    · rename_i control
      exact stringFrom?_escaped (escapePiece?_control control rest)
    · rename_i shown
      simp only [List.cons_append, List.nil_append, stringFrom?]
      rw [if_neg quote, if_neg backslash, if_neg shown]
      rfl

/-- A string is read back as the text it was written from. -/
theorem stringFrom?_quoted (t rest : Text) (enough : t.length < fuel) :
    stringFrom? fuel (some read) (t.flatMap escape ++ '"' :: rest) =
      some (some (read.reverse ++ t), rest) := by
  induction t generalizing fuel read with
  | nil =>
    obtain ⟨fuel, rfl⟩ := Nat.exists_eq_add_one_of_ne_zero (Nat.ne_zero_of_lt enough)
    simp [stringFrom?]
  | cons c t ih =>
    obtain ⟨fuel, rfl⟩ := Nat.exists_eq_add_one_of_ne_zero (Nat.ne_zero_of_lt enough)
    have left : t.length < fuel := Nat.lt_of_succ_lt_succ enough
    rw [List.flatMap_cons, List.append_assoc, stringFrom?_escape, ih left, List.reverse_cons,
      List.append_assoc, List.singleton_append]

theorem length_le_escape (t : Text) : t.length ≤ (t.flatMap escape).length := by
  induction t with
  | nil => exact Nat.le_refl 0
  | cons c t ih =>
    have some : escape c ≠ [] := by
      unfold escape
      split <;> first | (split <;> simp) | simp
    have written := List.length_pos_iff.mpr some
    rw [List.flatMap_cons, List.length_append, List.length_cons]
    omega

theorem length_lt_quote (t : Text) : t.length + 1 < (quote t).length := by
  have inside := length_le_escape t
  simp only [quote, List.length_cons, List.length_append, List.length_nil]
  omega

theorem quote_append (t rest : Text) :
    quote t ++ rest = '"' :: (t.flatMap escape ++ '"' :: rest) := by
  simp [quote]

theorem string?_quoted (t rest : Text) (enough : (quote t).length ≤ fuel + 1) :
    string? fuel (t.flatMap escape ++ '"' :: rest) = some (some t, rest) :=
  stringFrom?_quoted t rest (by have long := length_lt_quote t; omega)

end Strings

/-- The characters that a number may go on with. -/
def isNumberChar (c : Char) : Bool :=
  c.isDigit || c == '-' || c == '+' || c == '.' || c == 'e' || c == 'E'

/-- The optional sign of a literal and what follows it. -/
def signPart : Text → Text × Text
  | '-' :: rest => (['-'], rest)
  | t => ([], t)

/-- The optional fraction, which has digits. -/
def fractionPart? : Text → Option (Text × Text)
  | '.' :: rest =>
    let digits := rest.takeWhile Char.isDigit
    if digits = [] then none else some ('.' :: digits, rest.dropWhile Char.isDigit)
  | t => some ([], t)

def exponentSign : Text → Text × Text
  | '+' :: rest => (['+'], rest)
  | '-' :: rest => (['-'], rest)
  | rest => ([], rest)

/-- The optional exponent, which has digits. -/
def exponentPart? (t : Text) : Option (Text × Text) :=
  match t with
  | mark :: rest =>
    if mark = 'e' ∨ mark = 'E' then
      let (sign, rest) := exponentSign rest
      let digits := rest.takeWhile Char.isDigit
      if digits = [] then none
      else some (mark :: (sign ++ digits), rest.dropWhile Char.isDigit)
    else some ([], t)
  | [] => some ([], t)

theorem fractionPart?_bind (go : Text × Text → Option (Text × Text)) (t : Text) :
    (fractionPart? t).bind go =
      match t with
      | '.' :: rest =>
        if rest.takeWhile Char.isDigit = [] then none >>= go
        else some ('.' :: rest.takeWhile Char.isDigit, rest.dropWhile Char.isDigit) >>= go
      | t => some ([], t) >>= go := by
  unfold fractionPart?
  split
  · dsimp only
    split <;> rfl
  · rfl

theorem exponentPart?_bind (go : Text × Text → Option (Text × Text)) (t : Text) :
    (exponentPart? t).bind go =
      match t with
      | mark :: rest =>
        if mark = 'e' ∨ mark = 'E' then
          match exponentSign rest with
          | (sign, rest) =>
            if rest.takeWhile Char.isDigit = [] then none >>= go
            else some (mark :: (sign ++ rest.takeWhile Char.isDigit),
              rest.dropWhile Char.isDigit) >>= go
        else some ([], t) >>= go
      | [] => some ([], t) >>= go := by
  unfold exponentPart?
  split
  · split
    · dsimp only
      split <;> rfl
    · rfl
  · rfl

/-- A literal is a sign, digits, a fraction and an exponent, of which only the digits have to be
there. -/
theorem literal?_eq (t : Text) :
    literal? t =
      let (sign, t) := signPart t
      let whole := t.takeWhile Char.isDigit
      if whole = [] ∨ (whole.head? = some '0' ∧ whole.length ≠ 1) then none
      else
        (fractionPart? (t.dropWhile Char.isDigit)).bind fun (fraction, t) =>
          (exponentPart? t).bind fun (exponent, t) =>
            some (sign ++ whole ++ fraction ++ exponent, t) := by
  unfold literal?
  split
  rename_i sign u signed
  rw [show signPart t = (sign, u) from signed]
  dsimp only
  split
  · rfl
  · rw [fractionPart?_bind]
    simp only [exponentPart?_bind]
    rfl

theorem isNumberChar_of_isDigit {c : Char} (h : c.isDigit = true) : isNumberChar c = true := by
  simp [isNumberChar, h]

/-- The characters that a number may begin with. -/
def BeginsLiteral (c : Char) : Prop :=
  c = '-' ∨ c.isDigit = true

instance (c : Char) : Decidable (BeginsLiteral c) :=
  inferInstanceAs (Decidable (_ ∨ _))

theorem BeginsLiteral.ne {c d : Char} (first : BeginsLiteral c) (other : ¬BeginsLiteral d) :
    c ≠ d := by
  rintro rfl
  exact other first

section Append

variable {t part left l rest : Text}

theorem ne_of_stops {p : Char → Bool} {c d : Char} {rest : Text} (stop : Stops p (d :: rest))
    (h : p c = true) : d ≠ c := by
  rintro rfl
  rw [stop d rfl] at h
  cases h

theorem signPart_append (stop : Stops isNumberChar rest) :
    signPart (t ++ rest) = ((signPart t).1, (signPart t).2 ++ rest) := by
  cases t with
  | nil =>
    cases rest with
    | nil => rfl
    | cons d rest => simp [signPart, ne_of_stops (c := '-') stop rfl]
  | cons c t =>
    by_cases minus : c = '-'
    · subst minus
      rfl
    · simp [signPart, minus]

theorem exponentSign_append (stop : Stops isNumberChar rest) :
    exponentSign (t ++ rest) = ((exponentSign t).1, (exponentSign t).2 ++ rest) := by
  cases t with
  | nil =>
    cases rest with
    | nil => rfl
    | cons d rest =>
      simp [exponentSign, ne_of_stops (c := '+') stop rfl, ne_of_stops (c := '-') stop rfl]
  | cons c t =>
    by_cases plus : c = '+'
    · subst plus
      rfl
    · by_cases minus : c = '-'
      · subst minus
        rfl
      · simp [exponentSign, plus, minus]

theorem fractionPart?_append (h : fractionPart? t = some (part, left))
    (stop : Stops isNumberChar rest) :
    fractionPart? (t ++ rest) = some (part, left ++ rest) := by
  have digits : Stops Char.isDigit rest := stop.mono fun _ => isNumberChar_of_isDigit
  cases t with
  | nil =>
    cases h
    cases rest with
    | nil => rfl
    | cons d rest => simp [fractionPart?, ne_of_stops (c := '.') stop rfl]
  | cons c t =>
    by_cases point : c = '.'
    · subst point
      simpa [fractionPart?, takeWhile_stops t digits, dropWhile_stops t digits] using h
    · obtain ⟨rfl, rfl⟩ : [] = part ∧ c :: t = left := by simpa [fractionPart?, point] using h
      simp [fractionPart?, point]

theorem exponentPart?_append (h : exponentPart? t = some (part, left))
    (stop : Stops isNumberChar rest) :
    exponentPart? (t ++ rest) = some (part, left ++ rest) := by
  have digits : Stops Char.isDigit rest := stop.mono fun _ => isNumberChar_of_isDigit
  cases t with
  | nil =>
    cases h
    cases rest with
    | nil => rfl
    | cons d rest =>
      simp [exponentPart?, ne_of_stops (c := 'e') stop rfl, ne_of_stops (c := 'E') stop rfl]
  | cons c t =>
    by_cases mark : c = 'e' ∨ c = 'E'
    · simpa [exponentPart?, mark, exponentSign_append stop, takeWhile_stops _ digits,
        dropWhile_stops _ digits] using h
    · obtain ⟨rfl, rfl⟩ : [] = part ∧ c :: t = left := by simpa [exponentPart?, mark] using h
      simp [exponentPart?, mark]

/-- What a literal is read as does not depend on what follows it. -/
theorem literal?_append (h : literal? t = some (l, left)) (stop : Stops isNumberChar rest) :
    literal? (t ++ rest) = some (l, left ++ rest) := by
  have digits : Stops Char.isDigit rest := stop.mono fun _ => isNumberChar_of_isDigit
  rw [literal?_eq] at h ⊢
  simp only [signPart_append stop, takeWhile_stops _ digits, dropWhile_stops _ digits] at h ⊢
  split at h
  · cases h
  · rename_i whole
    obtain ⟨⟨fraction, u⟩, hf, h⟩ := Option.bind_eq_some_iff.mp h
    obtain ⟨⟨exponent, v⟩, he, h⟩ := Option.bind_eq_some_iff.mp h
    cases h
    rw [if_neg whole, fractionPart?_append hf stop]
    dsimp only [Option.bind_some]
    rw [exponentPart?_append he stop]
    rfl

/-- A literal begins with a sign or a digit. -/
theorem literal?_first (h : literal? t = some (l, left)) :
    ∃ c u, t = c :: u ∧ BeginsLiteral c := by
  rw [literal?_eq] at h
  cases t with
  | nil => cases h
  | cons c t =>
    refine ⟨c, t, rfl, ?_⟩
    by_contra other
    rw [BeginsLiteral, not_or] at other
    simp [signPart, other.1, other.2] at h

end Append

/-- A text that is one number literal. -/
def IsLiteral (l : Text) : Prop :=
  literal? l = some (l, [])

theorem isLiteral_ofNat (n : Nat) : IsLiteral (Text.ofNat n) := by
  have digit (c : Char) (h : c ∈ Text.ofNat n) : c.isDigit = true := Text.isDigit_of_mem_ofNat h
  have unsigned : signPart (Text.ofNat n) = ([], Text.ofNat n) := by
    unfold signPart
    split
    · rename_i signed
      rw [signed] at digit
      cases digit '-' List.mem_cons_self
    · rfl
  obtain ⟨whole, last⟩ := Text.digits_ofNat n
  have well : ¬(Text.ofNat n = [] ∨
      ((Text.ofNat n).head? = some '0' ∧ (Text.ofNat n).length ≠ 1)) := by
    rintro (none | ⟨zero, long⟩)
    · exact Text.ofNat_ne_nil n none
    · rcases Nat.eq_zero_or_pos n with rfl | pos
      · exact long rfl
      · exact Text.head?_ofNat_ne_zero pos zero
  rw [IsLiteral, literal?_eq, unsigned]
  dsimp only
  rw [whole, if_neg well, last]
  simp [fractionPart?, exponentPart?]

theorem toNat?_ofNat {n greatest : Nat} (fits : n ≤ greatest) :
    (ofNat n).toNat? greatest = some n := by
  have digit (c : Char) (h : c ∈ Text.ofNat n) : c.isDigit = true := Text.isDigit_of_mem_ofNat h
  have unsigned : (Text.ofNat n).head? ≠ some '-' := by
    intro signed
    cases digit '-' (List.mem_of_head? signed)
  obtain ⟨whole, last⟩ := Text.digits_ofNat n
  simp [ofNat, toNat?, Literal.ofText, unsigned, Numeral.digitRun, whole, last, Text.toNat_ofNat,
    fits]

end Spreadsheet.Json

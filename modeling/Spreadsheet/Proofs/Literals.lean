import Mathlib.Algebra.Group.Nat.Even
import Spreadsheet.Proofs.BytePositions
import Spreadsheet.Proofs.RepeatedMoves

/-!
# Between quotes

Every double quote opens a literal or closes one, whatever stands around it, so a text is cut at a
quote as its two sides would be cut alone. The side before the quote is a text of its own; for the
side behind it matters only whether it begins inside of a literal. What moves a formula may count in
bytes instead, keep the place where the stretch at hand began and hand on whole stretches: every
place where it cuts is the beginning of a character, and it moves the formula just the same.
-/

namespace Spreadsheet

/-- Whether a text that begins between quotes, or does not, is left between quotes. -/
def Text.leftQuoted : Bool → Text → Bool
  | quoted, [] => quoted
  | quoted, c :: rest => leftQuoted (if c = '"' then !quoted else quoted) rest

namespace Text

theorem leftQuoted_append (quoted : Bool) (s t : Text) :
    leftQuoted quoted (s ++ t) = leftQuoted (leftQuoted quoted s) t := by
  induction s generalizing quoted with
  | nil => rfl
  | cons c rest ih => exact ih _

theorem leftQuoted_of_notMem {quoted : Bool} {t : Text} (without : '"' ∉ t) :
    leftQuoted quoted t = quoted := by
  induction t generalizing quoted with
  | nil => rfl
  | cons c rest ih =>
    obtain ⟨other, later⟩ := List.ne_and_not_mem_of_not_mem_cons without
    rw [leftQuoted, if_neg (Ne.symm other), ih later]

/-- Quotes come in pairs. -/
theorem leftQuoted_eq_false_iff (quoted : Bool) (t : Text) :
    leftQuoted quoted t = quoted ↔ Even (t.count '"') := by
  induction t generalizing quoted with
  | nil => simp [leftQuoted]
  | cons c rest ih =>
    by_cases quote : c = '"'
    · subst quote
      have flipped := ih (!quoted)
      rw [leftQuoted, if_pos rfl, List.count_cons_self, Nat.even_add_one, ← flipped]
      cases quoted <;> cases leftQuoted _ rest <;> simp
    · rw [leftQuoted, if_neg quote, List.count_cons_of_ne quote, ih]

end Text

namespace Token

theorem completes_append_quote (p : Progress) (t rest : Text) :
    completes p (t ++ '"' :: rest) = completes p t := by
  induction t generalizing p with
  | nil => cases p <;> rfl
  | cons c t ih => exact completes_cons_congr ih p c

end Token

namespace Segment

/-- A text is cut at a quote as it would be cut without what comes behind. -/
theorem Cut.append_quote {quoted : Bool} {t rest : Text} {segments others : List Segment}
    (h : Cut quoted t segments) (behind : Cut (!Text.leftQuoted quoted t) rest others) :
    Cut quoted (t ++ '"' :: rest) (segments ++ Segment.plain '"' :: others) := by
  induction h with
  | nil quoted => exact .quote behind
  | quote h ih => exact .quote (ih behind)
  | @quoted c t segments other h ih =>
    rw [Text.leftQuoted, if_neg other] at behind
    exact .quoted other (ih behind)
  | @token k t segments proper stop h ih =>
    rw [Text.leftQuoted_append,
      Text.leftQuoted_of_notMem (proper.notMem_toText (by decide))] at behind
    have stop' : Text.Stops Char.isDigit (t ++ '"' :: rest) := by
      rw [Token.stops_iff_completes, Token.completes_append_quote, ← Token.stops_iff_completes]
      exact stop
    rw [List.append_assoc]
    exact .token proper stop' (ih behind)
  | @plain c t segments other nowhere h ih =>
    rw [Text.leftQuoted, if_neg other] at behind
    refine .plain other ?_ (ih behind)
    rw [← Token.atFront?_eq_none_iff, Token.atFront?_eq_none_iff_completes] at nowhere ⊢
    rw [← nowhere]
    exact Token.completes_append_quote .nothing (c :: t) rest

theorem scan_append_quote (quoted : Bool) (t rest : Text) :
    scan quoted 0 (t ++ '"' :: rest) =
      scan quoted 0 t ++ plain '"' :: scan (!Text.leftQuoted quoted t) 0 rest :=
  ((cut_scan quoted t).append_quote (cut_scan _ rest)).scan

/-- Between quotes every character stands for itself. -/
theorem scan_quoted {t : Text} (without : '"' ∉ t) : scan true 0 t = t.map plain := by
  induction t with
  | nil => rfl
  | cons c rest ih =>
    obtain ⟨other, later⟩ := List.ne_and_not_mem_of_not_mem_cons without
    rw [scan, if_neg (Ne.symm other), if_pos rfl, ih later]
    rfl

end Segment

namespace Relocation

/-- What becomes of a text that may begin between quotes. -/
def relocated (rows cols : Int) (quoted : Bool) (t : Text) : Text :=
  (Segment.scan quoted 0 t).flatMap (segment rows cols)

section Relocated

variable {rows cols : Int} {quoted : Bool} {t : Text}

theorem relocated_append_quote (rows cols : Int) (quoted : Bool) (t rest : Text) :
    relocated rows cols quoted (t ++ '"' :: rest) =
      relocated rows cols quoted t ++
        '"' :: relocated rows cols (!Text.leftQuoted quoted t) rest := by
  rw [relocated, Segment.scan_append_quote, List.flatMap_append, List.flatMap_cons]
  rfl

theorem relocated_quoted (without : '"' ∉ t) : relocated rows cols true t = t := by
  rw [relocated, Segment.scan_quoted without, flatMap_plain]

theorem formula_eq_relocated (moved : ¬(rows = 0 ∧ cols = 0)) (t : Text) :
    formula rows cols t = relocated rows cols false t := by
  rw [formula, if_neg moved]
  rfl

end Relocated

/-- Other texts in the place of the tokens of a text, quotes or not. The first characters may still
belong to the token found last. -/
def replaceTokens (f : Token → Text) : Nat → Text → Text
  | _, [] => []
  | skip + 1, _ :: rest => replaceTokens f skip rest
  | 0, c :: rest =>
    match Token.atFront? (c :: rest) with
    | some k => f k ++ replaceTokens f (k.toText.length - 1) rest
    | none => c :: replaceTokens f 0 rest

theorem replaceTokens_eq {rows cols : Int} {t : Text} (without : '"' ∉ t) (skip : Nat) :
    replaceTokens (token rows cols) skip t =
      (Segment.scan false skip t).flatMap (segment rows cols) := by
  induction t generalizing skip with
  | nil => cases skip <;> rfl
  | cons c rest ih =>
    obtain ⟨other, later⟩ := List.ne_and_not_mem_of_not_mem_cons without
    cases skip with
    | succ skip => exact ih later skip
    | zero =>
      rw [replaceTokens, Segment.scan, if_neg (Ne.symm other), if_neg Bool.false_ne_true]
      cases Token.atFront? (c :: rest) with
      | none => exact congrArg (c :: ·) (ih later 0)
      | some k => exact congrArg (token rows cols k ++ ·) (ih later _)

/-- Where a reader of bytes stands that hands on whole stretches: what it has written, the byte at
which the stretch at hand began, and whether that is a literal. -/
structure Reader where
  out : Text
  start : Nat
  quoted : Bool
deriving DecidableEq, Repr

namespace Reader

/-- A character that begins at a byte is read. A quote ends a stretch; it belongs to the literal. -/
def next? (f : Text → Text) (t : Text) (r : Reader) (place : Nat) (c : Char) : Option Reader :=
  if c = '"' then
    if r.quoted then do
      let literal ← t.slice? r.start (place + 1)
      return ⟨r.out ++ literal, place + 1, false⟩
    else do
      let stretch ← t.slice? r.start place
      return ⟨r.out ++ f stretch, place, true⟩
  else some r

/-- The characters from a byte on are read, and the last stretch is handed on at the end. -/
def read? (f : Text → Text) (t : Text) (r : Reader) : Nat → Text → Option Text
  | _, [] =>
    if r.start < String.utf8Len t then do
      let last ← t.slice? r.start (String.utf8Len t)
      return r.out ++ if r.quoted then last else f last
    else some r.out
  | place, c :: rest => do
    let r ← r.next? f t place c
    r.read? f t (place + c.utf8Size) rest

end Reader

/-- Applies a function to each stretch of a text that is in no literal. -/
def mapStretches? (f : Text → Text) (t : Text) : Option Text :=
  Reader.read? f t ⟨[], 0, false⟩ 0 t

/-- A formula moved by way of its bytes. -/
def formulaBytes? (rows cols : Int) (t : Text) : Option Text :=
  if rows = 0 ∧ cols = 0 then some t
  else mapStretches? (replaceTokens (token rows cols) 0) t

/-- The quote that a literal begins with. -/
def opening (quoted : Bool) : Text :=
  if quoted then ['"'] else []

section Bytes

open String (utf8Len)

variable {rows cols : Int} {t done body : Text} {quoted : Bool}

theorem read?_nil (parts : t = done ++ (opening quoted ++ body)) (without : '"' ∉ body)
    (out : Text) (place : Nat) :
    Reader.read? (replaceTokens (token rows cols) 0) t ⟨out, utf8Len done, quoted⟩ place [] =
      some (out ++ (opening quoted ++ relocated rows cols quoted body)) := by
  have last : t.slice? (utf8Len done) (utf8Len t) = some (opening quoted ++ body) := by
    have slice := Text.slice?_append done (opening quoted ++ body) []
    rwa [List.append_nil, ← parts] at slice
  have length : utf8Len t = utf8Len done + (utf8Len (opening quoted) + utf8Len body) := by
    rw [parts, String.utf8Len_append, String.utf8Len_append]
  rw [Reader.read?]
  dsimp only
  cases quoted with
  | true =>
    have first : utf8Len (opening true) = 1 := rfl
    rw [if_pos (by omega), last, relocated_quoted without]
    rfl
  | false =>
    have first : utf8Len (opening false) = 0 := rfl
    by_cases more : utf8Len done < utf8Len t
    · rw [if_pos more, last]
      exact congrArg (fun text => some (out ++ text)) (replaceTokens_eq without 0)
    · have none : body = [] := String.utf8Len_eq_zero.mp (by omega)
      rw [if_neg more, none]
      exact congrArg some (List.append_nil out).symm

/-- A quote ends a literal and is part of it. -/
theorem next?_closing {rest : Text} (parts : t = done ++ body ++ '"' :: rest) (f : Text → Text)
    (out : Text) :
    Reader.next? f t ⟨out, utf8Len done, true⟩ (utf8Len (done ++ body)) '"' =
      some ⟨out ++ (body ++ ['"']), utf8Len (done ++ (body ++ ['"'])), false⟩ := by
  have stop : utf8Len (done ++ body) + 1 = utf8Len (done ++ (body ++ ['"'])) := by
    rw [← List.append_assoc, String.utf8Len_append (done ++ body)]
    rfl
  have literal := Text.slice?_append done (body ++ ['"']) rest
  have whole : done ++ (body ++ ['"']) ++ rest = t := by simp [parts]
  rw [whole] at literal
  rw [Reader.next?, if_pos rfl, if_pos rfl, stop, literal]
  rfl

/-- A quote ends a stretch and begins a literal. -/
theorem next?_opening {rest : Text} (parts : t = done ++ body ++ '"' :: rest) (f : Text → Text)
    (out : Text) :
    Reader.next? f t ⟨out, utf8Len done, false⟩ (utf8Len (done ++ body)) '"' =
      some ⟨out ++ f body, utf8Len (done ++ body), true⟩ := by
  have stretch := Text.slice?_append done body ('"' :: rest)
  rw [← parts] at stretch
  rw [Reader.next?, if_pos rfl, if_neg Bool.false_ne_true, stretch]
  rfl

/-- The stretch at hand and the rest of the text are moved by way of the bytes as they are by way of
the characters. -/
theorem read?_eq (quoted : Bool) (done body : Text) {rest : Text}
    (parts : t = done ++ (opening quoted ++ body) ++ rest) (without : '"' ∉ body) (out : Text) :
    Reader.read? (replaceTokens (token rows cols) 0) t ⟨out, utf8Len done, quoted⟩
        (utf8Len (done ++ (opening quoted ++ body))) rest =
      some (out ++ (opening quoted ++ relocated rows cols quoted (body ++ rest))) := by
  induction rest generalizing done body quoted out with
  | nil =>
    rw [List.append_nil] at parts ⊢
    exact read?_nil parts without out _
  | cons c rest ih =>
    have next : utf8Len (done ++ (opening quoted ++ body)) + c.utf8Size =
        utf8Len (done ++ (opening quoted ++ (body ++ [c]))) := by
      simp only [String.utf8Len_append, String.utf8Len_cons, String.utf8Len_nil]
      omega
    rw [Reader.read?, next]
    by_cases quote : c = '"'
    · subst quote
      rw [relocated_append_quote, Text.leftQuoted_of_notMem without]
      cases quoted with
      | true =>
        have later := ih false (done ++ (opening true ++ (body ++ ['"']))) []
          (by simp [parts, opening]) (by simp) (out ++ (opening true ++ (body ++ ['"'])))
        rw [show opening false ++ [] = [] from rfl, List.append_nil] at later
        rw [next?_closing parts, List.append_assoc (opening true), Option.bind_eq_bind,
          Option.bind_some, later, relocated_quoted without]
        simp [opening]
      | false =>
        have moved : replaceTokens (token rows cols) 0 (opening false ++ body) =
            relocated rows cols false body := replaceTokens_eq without 0
        have later := ih true (done ++ (opening false ++ body)) []
          (by simp [parts, opening]) (by simp) (out ++ relocated rows cols false body)
        rw [show opening true ++ [] = ['"'] from rfl, List.append_assoc done,
          List.append_assoc (opening false)] at later
        rw [next?_opening parts, Option.bind_eq_bind, Option.bind_some, moved, later]
        simp [opening]
    · have later := ih quoted done (body ++ [c]) (by simp [parts])
        (by simp [without, Ne.symm quote]) out
      rw [List.append_assoc, List.singleton_append] at later
      rw [Reader.next?, if_neg quote]
      exact later

/-- A text is moved by way of its bytes as it is by way of its characters. -/
theorem formulaBytes?_eq (rows cols : Int) (t : Text) :
    formulaBytes? rows cols t = some (formula rows cols t) := by
  rw [formulaBytes?]
  split
  · rename_i still
    rw [formula, if_pos still]
  · rename_i moved
    rw [formula_eq_relocated moved]
    exact read?_eq false [] [] rfl (by simp) []

end Bytes

end Relocation

end Spreadsheet

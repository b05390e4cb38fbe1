import Spreadsheet.Proofs.ReferenceText

/-!
# How a formula is cut

What is read as a token at the front of a text stands there, and no text that begins with a token is
read otherwise. From the left a text is cut at every double quote and, outside of quotes, wherever a
token begins, each other character being a segment of its own. There is one way to cut a text like
this, and put together again the segments are the text.
-/

namespace Spreadsheet

namespace Token

section Front

variable {k : Token} {t rest : Text}

theorem marker_takeMarker (t : Text) : marker (takeMarker t).1 ++ (takeMarker t).2 = t := by
  rw [takeMarker.eq_def]
  split
  · rfl
  · rfl

/-- What is read at the front of a text stands there. -/
theorem exists_of_atFront? (h : Token.atFront? t = some k) :
    k.Proper ∧ ∃ rest, t = k.toText ++ rest ∧ Text.Stops Char.isDigit rest := by
  simp only [Token.atFront?] at h
  split at h
  · rename_i some
    cases h
    refine ⟨⟨?_, some.1, ?_, some.2⟩, _, ?_, Text.stops_dropWhile Char.isDigit
      (takeMarker ((takeMarker t).2.dropWhile Char.isUpper)).2⟩
    · exact List.all_eq_true.mp List.all_takeWhile
    · exact List.all_eq_true.mp List.all_takeWhile
    · simp only [toText, List.append_assoc, List.takeWhile_append_dropWhile, marker_takeMarker]
  · cases h

/-- A token begins at the front of a text if one is read there. -/
theorem atFront?_eq_none_iff :
    Token.atFront? t = none ↔ ∀ k rest, Proper k → t ≠ k.toText ++ rest := by
  constructor
  · rintro none k rest proper rfl
    -- the digits that follow belong to the token, too
    let longer : Token := { k with digits := k.digits ++ rest.takeWhile Char.isDigit }
    have same : k.toText ++ rest = longer.toText ++ rest.dropWhile Char.isDigit := by
      simp only [longer, toText, List.append_assoc, List.takeWhile_append_dropWhile]
    have read : Proper longer := by
      refine ⟨proper.upper, proper.lettered, ?_,
        List.append_ne_nil_of_left_ne_nil proper.numbered _⟩
      intro c hc
      rcases List.mem_append.mp hc with old | new
      · exact proper.decimal c old
      · exact List.all_eq_true.mp List.all_takeWhile c new
    rw [same, read.atFront? (Text.stops_dropWhile _ _)] at none
    cases none
  · intro nowhere
    cases found : Token.atFront? t with
    | none => rfl
    | some k =>
      obtain ⟨proper, rest, written, -⟩ := exists_of_atFront? found
      exact absurd written (nowhere k rest proper)

end Front

end Token

namespace Segment

/-- A text and the segments that it is cut into; the text may begin between quotes. -/
inductive Cut : Bool → Text → List Segment → Prop
  | nil (quoted : Bool) : Cut quoted [] []
  | quote {quoted : Bool} {t : Text} {segments : List Segment} (h : Cut (!quoted) t segments) :
      Cut quoted ('"' :: t) (plain '"' :: segments)
  | quoted {c : Char} {t : Text} {segments : List Segment} (other : c ≠ '"')
      (h : Cut true t segments) : Cut true (c :: t) (plain c :: segments)
  | token {k : Token} {t : Text} {segments : List Segment} (proper : k.Proper)
      (stop : Text.Stops Char.isDigit t) (h : Cut false t segments) :
      Cut false (k.toText ++ t) (token k :: segments)
  | plain {c : Char} {t : Text} {segments : List Segment} (other : c ≠ '"')
      (nowhere : ∀ k rest, Token.Proper k → c :: t ≠ k.toText ++ rest) (h : Cut false t segments) :
      Cut false (c :: t) (plain c :: segments)

theorem Cut.toText {quoted : Bool} {t : Text} {segments : List Segment}
    (h : Cut quoted t segments) : segments.flatMap Segment.toText = t := by
  induction h with
  | nil => rfl
  | quote h ih => rw [List.flatMap_cons, ih]; rfl
  | quoted other h ih => rw [List.flatMap_cons, ih]; rfl
  | token proper stop h ih => rw [List.flatMap_cons, ih]; rfl
  | plain other nowhere h ih => rw [List.flatMap_cons, ih]; rfl

theorem Cut.proper {quoted : Bool} {t : Text} {segments : List Segment} {k : Token}
    (h : Cut quoted t segments) (found : .token k ∈ segments) : k.Proper := by
  induction h with
  | nil => cases found
  | quote h ih | quoted other h ih | plain other nowhere h ih =>
    rcases List.mem_cons.mp found with here | later
    · cases here
    · exact ih later
  | token proper stop h ih =>
    rcases List.mem_cons.mp found with here | later
    · cases here
      exact proper
    · exact ih later

theorem Cut.scan {quoted : Bool} {t : Text} {segments : List Segment}
    (h : Cut quoted t segments) : scan quoted 0 t = segments := by
  induction h with
  | nil quoted => rw [Segment.scan]
  | quote h ih => rw [Segment.scan, if_pos rfl, ih]
  | quoted other h ih => rw [Segment.scan, if_neg other, if_pos rfl, ih]
  | token proper stop h ih => rw [scan_proper proper stop, ih]
  | plain other nowhere h ih =>
    rw [scan_plain other (Token.atFront?_eq_none_iff.mpr nowhere), ih]

/-- The segments that are found cut the text. -/
theorem cut_scan (quoted : Bool) (t : Text) : Cut quoted t (Segment.scan quoted 0 t) := by
  induction length : t.length using Nat.strongRecOn generalizing quoted t with
  | ind n ih =>
    cases t with
    | nil =>
      rw [Segment.scan]
      exact .nil quoted
    | cons c rest =>
      have shorter : ∀ quoted, Cut quoted rest (Segment.scan quoted 0 rest) := fun quoted =>
        ih rest.length (by rw [← length, List.length_cons]; omega) quoted rest rfl
      by_cases quote : c = '"'
      · subst quote
        rw [Segment.scan, if_pos rfl]
        exact .quote (shorter !quoted)
      · cases quoted with
        | true =>
          rw [Segment.scan, if_neg quote, if_pos rfl]
          exact .quoted quote (shorter true)
        | false =>
          cases found : Token.atFront? (c :: rest) with
          | none =>
            rw [scan_plain quote found]
            exact .plain quote (Token.atFront?_eq_none_iff.mp found) (shorter false)
          | some k =>
            obtain ⟨proper, after, written, stop⟩ := Token.exists_of_atFront? found
            have left : after.length < n := by
              have some := List.length_pos_iff.mpr proper.toText_ne_nil
              rw [← length, written, List.length_append]
              omega
            rw [written, scan_proper proper stop]
            exact .token proper stop (ih after.length left false after rfl)

/-- A text is cut in one way. -/
theorem cut_iff {quoted : Bool} {t : Text} {segments : List Segment} :
    Cut quoted t segments ↔ segments = Segment.scan quoted 0 t := by
  constructor
  · intro h
    exact h.scan.symm
  · rintro rfl
    exact cut_scan quoted t

end Segment

end Spreadsheet

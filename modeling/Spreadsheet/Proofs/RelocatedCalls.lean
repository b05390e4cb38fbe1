import Spreadsheet.Proofs.RewrittenTokens
import Spreadsheet.Proofs.WrittenCalls

/-!
# Calls that are moved

A call is taken apart at blanks, the equals sign, parentheses, commas and quotes. A move writes
references, or the mark of a lost one, in the place of references, and none of these has such a
character; nor is any of them a run of name characters, so none is part of a name. All else stays in
its place. So a call that is moved is the same call, and its arguments are the old ones but for
their references.
-/

namespace Spreadsheet

namespace Text

theorem trimEnd_append {w : Text} (filled : ∀ c ∈ w, isBlank c = false) (t : Text) :
    trimEnd (w ++ t) = w ++ trimEnd t := by
  induction w with
  | nil => rfl
  | cons c w ih =>
    rw [List.cons_append, trimEnd_cons (filled c List.mem_cons_self),
      ih fun d hd => filled d (List.mem_cons_of_mem c hd)]
    rfl

/-- Blanks at the end of a text go if nothing else stands between them and the end. -/
theorem trimEnd_blank_cons {c : Char} (blank : isBlank c = true) (t : Text) :
    trimEnd (c :: t) = if trimEnd t = [] then [] else c :: trimEnd t := by
  simp only [trimEnd, List.reverse_cons, List.dropWhile_append, List.isEmpty_iff,
    List.reverse_eq_nil_iff]
  split
  · rw [List.dropWhile_cons_of_pos blank]
    rfl
  · rw [List.reverse_append]
    rfl

end Text

namespace Formula

/-- The characters that a call is taken apart at. -/
def isDelimiter (c : Char) : Bool :=
  isBlank c || "=(),\"".toList.contains c

theorem not_isDelimiter_of_mem_token {k : Token} (proper : k.Proper) {c : Char}
    (h : c ∈ k.toText) : isDelimiter c = false := by
  have filled : isBlank c = false := by
    apply Text.not_isBlank_of_visible
    rcases proper.mem_toText h with upper | digit | rfl
    · have range := Text.isUpper_iff.mp upper
      omega
    · have range := Text.isDigit_iff.mp digit
      omega
    · decide
  rw [isDelimiter, filled, Bool.false_or, ← Bool.not_eq_true, List.contains_iff_mem]
  intro delimiter
  have ends : "=(),\"".toList.all (fun c => decide (Text.EndsToken c)) = true := by decide
  exact proper.notMem_toText (of_decide_eq_true (List.all_eq_true.mp ends c delimiter)) h

/-- What a move may write over and what it may write: a reference, or the mark of a lost one. -/
inductive IsReferral : Text → Prop
  | token {k : Token} (proper : k.Proper) : IsReferral k.toText
  | lost : IsReferral Relocation.lost

namespace IsReferral

variable {w : Text}

theorem not_isDelimiter (h : IsReferral w) : ∀ c ∈ w, isDelimiter c = false := by
  cases h with
  | token proper => exact fun c => not_isDelimiter_of_mem_token proper
  | lost =>
    have none : Relocation.lost.all (!isDelimiter ·) = true := by decide
    exact fun c hc => (Bool.not_eq_true' _).mp (List.all_eq_true.mp none c hc)

theorem not_isBlank (h : IsReferral w) {c : Char} (hc : c ∈ w) : isBlank c = false :=
  (Bool.or_eq_false_iff.mp (h.not_isDelimiter c hc)).1

/-- A reference has a digit, and a lost one has a `#`. -/
theorem exists_not_isNameChar (h : IsReferral w) : ∃ c ∈ w, isNameChar c = false := by
  cases h with
  | lost => exact ⟨'#', by decide, by decide⟩
  | @token k proper =>
    obtain ⟨c, digit⟩ := List.exists_mem_of_ne_nil k.digits proper.numbered
    have decimal := proper.decimal c digit
    refine ⟨c, List.mem_append_right _ digit, ?_⟩
    rw [isNameChar, Text.not_isUpper_of_isDigit decimal, Bool.false_or, beq_eq_false_iff_ne]
    rintro rfl
    cases decimal

theorem ne_nil (h : IsReferral w) : w ≠ [] := by
  obtain ⟨c, hc, -⟩ := h.exists_not_isNameChar
  exact List.ne_nil_of_mem hc

end IsReferral

/-- Two texts that are the same but for references, any of which may be lost in either. -/
inductive UpToReferences : Text → Text → Prop
  | nil : UpToReferences [] []
  | cons (c : Char) {t t' : Text} (h : UpToReferences t t') : UpToReferences (c :: t) (c :: t')
  | referral {w w' t t' : Text} (old : IsReferral w) (new : IsReferral w')
      (h : UpToReferences t t') : UpToReferences (w ++ t) (w' ++ t')

namespace UpToReferences

variable {t t' u : Text}

theorem symm (h : UpToReferences t t') : UpToReferences t' t := by
  induction h with
  | nil => exact .nil
  | cons c h ih => exact .cons c ih
  | referral old new h ih => exact .referral new old ih

theorem eq_nil_iff (h : UpToReferences t t') : t = [] ↔ t' = [] := by
  cases h with
  | nil => exact Iff.rfl
  | cons c h => exact iff_of_false (List.cons_ne_nil _ _) (List.cons_ne_nil _ _)
  | referral old new h =>
    exact iff_of_false (List.append_ne_nil_of_left_ne_nil old.ne_nil _)
      (List.append_ne_nil_of_left_ne_nil new.ne_nil _)

/-- No reference is part of a name. -/
theorem eq_of_name (h : UpToReferences t t') (name : ∀ c ∈ t, isNameChar c = true) : t' = t := by
  induction h with
  | nil => rfl
  | cons c h ih => rw [ih fun d hd => name d (List.mem_cons_of_mem c hd)]
  | referral old new h ih =>
    obtain ⟨c, hc, other⟩ := old.exists_not_isNameChar
    rw [name c (List.mem_append_left _ hc)] at other
    cases other

/-- A delimiter has its place in both texts, between parts that correspond. -/
theorem exists_of_delimiter {c : Char} {v : Text} (delimiter : isDelimiter c = true)
    (h : UpToReferences (u ++ c :: v) t') :
    ∃ u' v', t' = u' ++ c :: v' ∧ UpToReferences u u' ∧ UpToReferences v v' := by
  generalize whole : u ++ c :: v = t at h
  induction h generalizing u with
  | nil => exact absurd whole (List.append_ne_nil_of_right_ne_nil _ (List.cons_ne_nil _ _))
  | @cons d t t' h ih =>
    cases u with
    | nil =>
      cases whole
      exact ⟨[], t', rfl, .nil, h⟩
    | cons e u =>
      obtain ⟨rfl, rest⟩ := List.cons.inj whole
      obtain ⟨u', v', rfl, front, back⟩ := ih rest
      exact ⟨e :: u', v', rfl, .cons e front, back⟩
  | @referral w w' t t' old new h ih =>
    -- the delimiter is none of the reference's characters, so it stands behind it
    obtain ⟨rest, rfl, later⟩ : ∃ rest, u = w ++ rest ∧ rest ++ c :: v = t := by
      rcases List.append_eq_append_iff.mp whole with ⟨inner, rfl, inside⟩ | ⟨rest, hu, ht⟩
      · cases inner with
        | nil => exact ⟨[], by simp, by simpa using inside⟩
        | cons d inner =>
          obtain ⟨rfl, -⟩ := List.cons.inj inside
          have plain := old.not_isDelimiter c (by simp)
          rw [delimiter] at plain
          cases plain
      · exact ⟨rest, hu, ht.symm⟩
    obtain ⟨u', v', rfl, front, back⟩ := ih later
    exact ⟨w' ++ u', v', (List.append_assoc ..).symm, .referral old new front, back⟩

theorem mem_of_mem {c : Char} (delimiter : isDelimiter c = true) (h : UpToReferences t t')
    (hc : c ∈ t) : c ∈ t' := by
  obtain ⟨u, v, rfl⟩ := List.append_of_mem hc
  obtain ⟨u', v', rfl, -, -⟩ := h.exists_of_delimiter delimiter
  exact List.mem_append_right u' List.mem_cons_self

/-! ## Trimming -/

theorem trimStart (h : UpToReferences t t') : UpToReferences t.trimStart t'.trimStart := by
  induction h with
  | nil => exact .nil
  | @cons c t t' h ih =>
    rw [Text.trimStart, Text.trimStart, List.dropWhile_cons, List.dropWhile_cons]
    split
    · exact ih
    · exact .cons c h
  | @referral w w' t t' old new h ih =>
    have filled : Text.Stops isBlank (w ++ t) := .append old.ne_nil (fun _ => old.not_isBlank) t
    have filled' : Text.Stops isBlank (w' ++ t') := .append new.ne_nil (fun _ => new.not_isBlank) t'
    rw [Text.trimStart, Text.trimStart, filled.dropWhile_eq_self, filled'.dropWhile_eq_self]
    exact .referral old new h

theorem trimEnd (h : UpToReferences t t') : UpToReferences t.trimEnd t'.trimEnd := by
  induction h with
  | nil => exact .nil
  | @cons c t t' h ih =>
    cases blank : isBlank c with
    | false =>
      rw [Text.trimEnd_cons blank, Text.trimEnd_cons blank]
      exact .cons c ih
    | true =>
      rw [Text.trimEnd_blank_cons blank, Text.trimEnd_blank_cons blank,
        if_congr ih.eq_nil_iff rfl rfl]
      split
      · exact .nil
      · exact .cons c ih
  | referral old new h ih =>
    rw [Text.trimEnd_append fun _ => old.not_isBlank, Text.trimEnd_append fun _ => new.not_isBlank]
    exact .referral old new ih

theorem trim (h : UpToReferences t t') : UpToReferences t.trim t'.trim :=
  h.trimStart.trimEnd

end UpToReferences

/-! ## Arguments -/

section Split

open Arguments

variable {ps ps' : List Text}

/-- A reader of arguments stands after other characters where it stood before. -/
theorem through_of_not_isDelimiter {w : Text} (plain : ∀ c ∈ w, isDelimiter c = false)
    (p : Position) : p.Keeps w ∧ p.through w = p := by
  induction w with
  | nil => exact ⟨trivial, rfl⟩
  | cons c w ih =>
    have ne : ∀ d, isDelimiter d = true → c ≠ d := by
      rintro d delimiter rfl
      rw [plain c List.mem_cons_self] at delimiter
      cases delimiter
    have stays : p.after c = p := by
      rw [Position.after, if_neg (ne '"' (by decide)), if_neg (ne '(' (by decide)),
        if_neg (ne ')' (by decide))]
    obtain ⟨keeps, through⟩ := ih fun d hd => plain d (List.mem_cons_of_mem c hd)
    refine ⟨⟨fun comma => ne ',' (by decide) comma.1, stays.symm ▸ keeps⟩, ?_⟩
    exact (congrArg (Position.through · w) stays).trans through

theorem forall₂_modifyHead {w w' : Text} (h : List.Forall₂ UpToReferences ps ps')
    (front : ∀ {t t'}, UpToReferences t t' → UpToReferences (w ++ t) (w' ++ t')) :
    List.Forall₂ UpToReferences (ps.modifyHead (w ++ ·)) (ps'.modifyHead (w' ++ ·)) := by
  cases h with
  | nil => exact .nil
  | cons first rest => exact .cons (front first) rest

theorem UpToReferences.pieces {t t' : Text} (h : UpToReferences t t') (p : Position) :
    List.Forall₂ UpToReferences (pieces p t) (pieces p t') := by
  induction h generalizing p with
  | nil => exact .cons .nil .nil
  | cons c h ih =>
    by_cases comma : c = ',' ∧ p.separates
    · rw [Arguments.pieces, Arguments.pieces, if_pos comma, if_pos comma]
      exact .cons .nil (ih p)
    · have keeps : p.Keeps [c] := ⟨comma, trivial⟩
      change List.Forall₂ _ (Arguments.pieces p ([c] ++ _)) (Arguments.pieces p ([c] ++ _))
      rw [pieces_append keeps, pieces_append keeps]
      exact forall₂_modifyHead (ih (p.after c)) (.cons c)
  | referral old new h ih =>
    obtain ⟨keeps, through⟩ := through_of_not_isDelimiter old.not_isDelimiter p
    obtain ⟨keeps', through'⟩ := through_of_not_isDelimiter new.not_isDelimiter p
    rw [pieces_append keeps, pieces_append keeps', through, through']
    exact forall₂_modifyHead (ih p) (.referral old new)

theorem forall₂_dropEmptyLast (h : List.Forall₂ UpToReferences ps ps') :
    List.Forall₂ UpToReferences (dropEmptyLast ps) (dropEmptyLast ps') := by
  induction h with
  | nil => exact .nil
  | @cons piece piece' ps ps' here rest ih =>
    cases rest with
    | nil =>
      simp only [dropEmptyLast, List.getLast?_singleton, Option.some.injEq, here.eq_nil_iff]
      split
      · exact .nil
      · exact .cons here .nil
    | cons next rest =>
      rw [dropEmptyLast_cons (List.cons_ne_nil _ _), dropEmptyLast_cons (List.cons_ne_nil _ _)]
      exact .cons here ih

theorem UpToReferences.split {t t' : Text} (h : UpToReferences t t') :
    List.Forall₂ UpToReferences (split t) (split t') := by
  rw [Arguments.split, Arguments.split, List.forall₂_map_left_iff, List.forall₂_map_right_iff]
  exact (forall₂_dropEmptyLast (h.pieces Position.start)).imp fun _ _ => UpToReferences.trim

end Split

/-! ## Calls -/

section Parse

variable {t t' : Text}

theorem UpToReferences.shape? (h : UpToReferences t t') {s : Shape} (shaped : shape? t = some s) :
    ∃ body', shape? t' = some ⟨s.name, body'⟩ ∧ UpToReferences s.body body' := by
  obtain ⟨proper, rfl⟩ := shape?_eq_some_iff.mp shaped
  obtain ⟨front, call, rfl, nothing, called⟩ :=
    UpToReferences.exists_of_delimiter (u := []) (by decide) h
  obtain ⟨name', opened, rfl, name, open'⟩ := called.exists_of_delimiter (by decide)
  obtain ⟨body', back, rfl, body, nothing'⟩ := open'.exists_of_delimiter (by decide)
  obtain rfl := nothing.eq_nil_iff.mp rfl
  obtain rfl := nothing'.eq_nil_iff.mp rfl
  obtain rfl := name.eq_of_name proper.nameChars
  refine ⟨body', shape?_eq_some_iff.mpr ⟨⟨proper.named, proper.nameChars, ?_⟩, rfl⟩, body⟩
  exact fun broken => proper.oneLine (body.symm.mem_of_mem (by decide) broken)

theorem UpToReferences.shape?_eq_none (h : UpToReferences t t')
    (shapeless : Formula.shape? t = none) : Formula.shape? t' = none := by
  cases shaped : Formula.shape? t' with
  | none => rfl
  | some s =>
    obtain ⟨body, back, -⟩ := h.symm.shape? shaped
    rw [shapeless] at back
    cases back

/-- Texts that are the same but for references are parsed alike. -/
theorem UpToReferences.parse (h : UpToReferences t t') :
    (∃ f args args', parse t = .ok ⟨f, args⟩ ∧ parse t' = .ok ⟨f, args'⟩ ∧
        List.Forall₂ UpToReferences args args') ∨
      (parse t = .error (.grammar t.trim) ∧ parse t' = .error (.grammar t'.trim)) ∨
      ∃ name, parse t = .error (.unknownFunction name) ∧
        parse t' = .error (.unknownFunction name) := by
  cases shaped : Formula.shape? t.trim with
  | none =>
    have shaped' := h.trim.shape?_eq_none shaped
    refine .inr (.inl ⟨?_, ?_⟩)
    · rw [Formula.parse, shaped]
    · rw [Formula.parse, shaped']
  | some s =>
    obtain ⟨body, shaped', same⟩ := h.trim.shape? shaped
    cases known : Function.ofName? s.name with
    | none =>
      refine .inr (.inr ⟨s.name, ?_, ?_⟩)
      · simp only [Formula.parse, shaped, known]
      · simp only [Formula.parse, shaped', known]
    | some f =>
      refine .inl ⟨f, _, _, ?_, ?_, same.split⟩
      · simp only [Formula.parse, shaped, known]
      · simp only [Formula.parse, shaped', known]

end Parse

/-! ## Moves -/

theorem upToReferences_of_pieces {rows cols : Int} {segments : List Segment} {pieces : List Text}
    (proper : ∀ k, .token k ∈ segments → Token.Proper k)
    (rewritten : List.Forall₂ (Segment.Rewritten rows cols) segments pieces) :
    UpToReferences (segments.flatMap Segment.toText) pieces.flatten := by
  induction rewritten with
  | nil => exact .nil
  | @cons x piece segments pieces here rest ih =>
    have later := ih fun k h => proper k (List.mem_cons_of_mem x h)
    cases here with
    | plain c => exact .cons c later
    | fixed both =>
      have old : IsReferral _ := .token (proper _ List.mem_cons_self)
      exact .referral old old later
    | token free follows =>
      exact .referral (.token (proper _ List.mem_cons_self)) (.token follows.proper) later
    | lost free => exact .referral (.token (proper _ List.mem_cons_self)) .lost later

/-- A moved text is the text that it was but for references. -/
theorem upToReferences_formula (rows cols : Int) (t : Text) :
    UpToReferences t (Relocation.formula rows cols t) := by
  have cut := Segment.cut_scan false t
  obtain ⟨pieces, rewritten, moved⟩ := Relocation.formula_pieces rows cols cut
  have same := upToReferences_of_pieces (fun k => cut.proper) rewritten
  rwa [cut.toText, ← moved] at same

/-- A text that is moved is a call if and only if it was one before, of the same function and with
as many arguments, each of which is the old one but for references. Otherwise it is no call before
and after for the same reason: it has not the shape of one, or it names no function. -/
theorem parse_relocated (rows cols : Int) (t : Text) :
    let moved := Relocation.formula rows cols t
    (∃ f args args', parse t = .ok ⟨f, args⟩ ∧ parse moved = .ok ⟨f, args'⟩ ∧
        args'.length = args.length ∧ List.Forall₂ UpToReferences args args') ∨
      (parse t = .error (.grammar t.trim) ∧ parse moved = .error (.grammar moved.trim)) ∨
      ∃ name, parse t = .error (.unknownFunction name) ∧
        parse moved = .error (.unknownFunction name) := by
  intro moved
  rcases (upToReferences_formula rows cols t).parse with call | failed
  · obtain ⟨f, args, args', parsed, parsed', same⟩ := call
    exact .inl ⟨f, args, args', parsed, parsed', same.length_eq.symm, same⟩
  · exact .inr failed

/-- The first reference is lost. The parenthesis in the literal takes the last one along, as it did
before the move. -/
example :
    let t := "=SUM(A1, \"(B1\", C1)".toList
    parse t = .ok ⟨.sum, ["A1".toList, "\"(B1\", C1".toList]⟩ ∧
      parse (Relocation.formula 0 (-1) t) =
        .ok ⟨.sum, ["#REF!".toList, "\"(B1\", B1".toList]⟩ := by
  decide

end Formula

end Spreadsheet

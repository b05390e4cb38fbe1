import Spreadsheet.Pattern.Replacement
import Spreadsheet.Proofs.ReferenceText

/-!
# What replacement templates stand for

A template is expanded from left to right. Whether a dollar sign introduces something is settled by
the characters behind it and the number of groups, never by what has been expanded before, so the
rules determine the expansion of every template. A dollar sign that is doubled stands for itself,
and in this way every text can be written as a template.
-/

namespace Spreadsheet.Pattern

/-- The text of a group, by its number from one on; a group that took no part in the match has
none. -/
def Match.groupText (t : Text) (m : Match) (n : Nat) : Text :=
  match m.groups[n - 1]? with
  | some (some (start, stop)) => slice t start stop
  | _ => []

namespace Template

/-- A number below a hundred in two digits. -/
def twoDigits (n : Nat) : Text :=
  [Nat.digitChar (n / 10), Nat.digitChar (n % 10)]

section Reference

variable (t : Text) (m : Match)

/-- What the characters behind a dollar sign introduce, and what is left behind them. One digit is
the number of a group only where two digits are not; then the second one is no part of it. -/
inductive Introduces : Text → Text → Text → Prop where
  | dollar (rest : Text) : Introduces ('$' :: rest) ['$'] rest
  | matched (rest : Text) : Introduces ('&' :: rest) (slice t m.start m.stop) rest
  | before (rest : Text) : Introduces ('\x60' :: rest) (t.take m.start) rest
  | after (rest : Text) : Introduces ('\'' :: rest) (t.drop m.stop) rest
  | twoDigits {n : Nat} (rest : Text) (first : 1 ≤ n) (small : n < 100)
      (last : n ≤ m.groups.length) : Introduces (twoDigits n ++ rest) (m.groupText t n) rest
  | oneDigit {n : Nat} {rest : Text} (first : 1 ≤ n) (small : n < 10) (last : n ≤ m.groups.length)
      (other : ∀ i < 10, rest.head? = some (Nat.digitChar i) → m.groups.length < 10 * n + i) :
      Introduces (Nat.digitChar n :: rest) (m.groupText t n) rest

/-- The expansion of a template from left to right. A dollar sign that introduces nothing stands for
itself, and what follows it is expanded on its own. -/
inductive Expands : Text → Text → Prop where
  | nil : Expands [] []
  | plain {c : Char} {rest out : Text} (other : c ≠ '$') (h : Expands rest out) :
      Expands (c :: rest) (c :: out)
  | introduced {behind piece rest out : Text} (introduces : Introduces t m behind piece rest)
      (h : Expands rest out) : Expands ('$' :: behind) (piece ++ out)
  | alone {behind out : Text} (nothing : ∀ piece rest, ¬Introduces t m behind piece rest)
      (h : Expands behind out) : Expands ('$' :: behind) ('$' :: out)

end Reference

section Digits

variable {g i n : Nat}

theorem isDigit_digitChar (small : i < 10) : (Nat.digitChar i).isDigit = true := by
  rw [Text.isDigit_iff, Nat.toNat_digitChar_of_lt_ten small]
  omega

theorem exists_digitChar {c : Char} (digit : c.isDigit = true) : ∃ i < 10, c = Nat.digitChar i := by
  obtain ⟨first, last⟩ := Text.isDigit_iff.mp digit
  have small : c.toNat - 48 < 10 := by omega
  refine ⟨c.toNat - 48, small, Char.toNat_inj.mp ?_⟩
  rw [Nat.toNat_digitChar_of_lt_ten small]
  omega

theorem toNat_digitChar (small : i < 10) : Text.toNat [Nat.digitChar i] = i := by
  rw [← Nat.toDigits_of_lt_base small]
  exact Text.toNat_ofNat i

theorem toNat_twoDigits (small : n < 100) : Text.toNat (twoDigits n) = n := by
  have first := Nat.toNat_digitChar_of_lt_ten (show n / 10 < 10 by omega)
  have last := Nat.toNat_digitChar_of_lt_ten (show n % 10 < 10 by omega)
  have zero : '0'.toNat = 48 := rfl
  simp only [twoDigits, Text.toNat, Nat.ofDigitChars_cons, Nat.ofDigitChars_nil, first, last, zero]
  omega

/-- Two digits are those of a number below a hundred. -/
theorem twoDigits_of_digitChar (i : Nat) {j : Nat} (small : j < 10) :
    [Nat.digitChar i, Nat.digitChar j] = twoDigits (10 * i + j) := by
  rw [twoDigits, show (10 * i + j) / 10 = i by omega, show (10 * i + j) % 10 = j by omega]

theorem group?_digitChar (small : n < 10) :
    group? g [Nat.digitChar n] = if 1 ≤ n ∧ n ≤ g then some (.group n) else none := by
  have digit := isDigit_digitChar small
  simp [group?, toNat_digitChar small, digit]

theorem group?_twoDigits (small : n < 100) :
    group? g (twoDigits n) = if 1 ≤ n ∧ n ≤ g then some (.group n) else none := by
  have digits : (twoDigits n).all Char.isDigit = true := by
    simp [twoDigits, isDigit_digitChar (show n / 10 < 10 by omega),
      isDigit_digitChar (show n % 10 < 10 by omega)]
  simp [group?, toNat_twoDigits small, digits]

theorem isDigit_of_group? {digits : Text} {piece : Piece} (h : group? g digits = some piece) :
    ∀ c ∈ digits, c.isDigit = true := by
  rw [group?] at h
  split at h
  · rename_i numbers
    exact List.all_eq_true.mp numbers.1
  · cases h

theorem eq_digitChar_of_group? {a : Char} {p : Piece} (h : group? g [a] = some p) :
    ∃ n < 10, a = Nat.digitChar n ∧ p = .group n ∧ 1 ≤ n ∧ n ≤ g := by
  obtain ⟨n, small, rfl⟩ := exists_digitChar (isDigit_of_group? h a List.mem_cons_self)
  rw [group?_digitChar small] at h
  split at h
  · rename_i range
    cases h
    exact ⟨n, small, rfl, rfl, range⟩
  · cases h

theorem eq_twoDigits_of_group? {a b : Char} {p : Piece} (h : group? g [a, b] = some p) :
    ∃ n < 100, [a, b] = twoDigits n ∧ p = .group n ∧ 1 ≤ n ∧ n ≤ g := by
  have digits := isDigit_of_group? h
  obtain ⟨i, first, rfl⟩ := exists_digitChar (digits a (by simp))
  obtain ⟨j, second, rfl⟩ := exists_digitChar (digits b (by simp))
  rw [twoDigits_of_digitChar i second] at h ⊢
  have small : 10 * i + j < 100 := by omega
  rw [group?_twoDigits small] at h
  split at h
  · rename_i range
    cases h
    exact ⟨10 * i + j, small, rfl, rfl, range⟩
  · cases h

/-- The characters that introduce something behind a dollar sign on their own. -/
def marks : Text :=
  ['$', '&', '\x60', '\'']

/-- Behind a dollar sign every other character begins the number of a group or nothing. -/
theorem afterDollar?_of_notMem {a : Char} (other : a ∉ marks) (rest : Text) :
    afterDollar? g (a :: rest) =
      ((rest.head?.bind fun b => (group? g [a, b]).map fun piece => (piece, 2)).or
        ((group? g [a]).map fun piece => (piece, 1))) := by
  simp only [marks, List.mem_cons, List.not_mem_nil, or_false, not_or] at other
  obtain ⟨dollar, ampersand, backquote, quote⟩ := other
  cases rest with
  | nil =>
    rw [afterDollar?]
    · rfl
    all_goals assumption
  | cons b rest =>
    rw [afterDollar?, List.head?_cons, Option.bind_some]
    · cases group? g [a, b] <;> rfl
    all_goals assumption

theorem digitChar_notMem_marks (small : i < 10) : Nat.digitChar i ∉ marks := by
  have digit := isDigit_digitChar small
  intro mark
  generalize Nat.digitChar i = c at digit mark
  simp only [marks, List.mem_cons, List.not_mem_nil, or_false] at mark
  rcases mark with rfl | rfl | rfl | rfl <;> cases digit

end Digits

section Introduces

variable {t behind piece rest : Text} {m : Match}

theorem expand_group (n : Nat) : (Piece.group n).expand (m.occurrence t) = m.groupText t n := by
  simp only [Piece.expand, Match.occurrence, Match.groupText, List.getElem?_map]
  rcases m.groups[n - 1]? with _ | _ | _ <;> rfl

/-- What stands behind a dollar sign is taken for what it introduces. -/
theorem Introduces.afterDollar? (h : Introduces t m behind piece rest) :
    ∃ p k, afterDollar? m.groups.length behind = some (p, k) ∧ p.expand (m.occurrence t) = piece ∧
      behind.drop k = rest := by
  cases h with
  | dollar | matched | before | after => exact ⟨_, 1, rfl, rfl, rfl⟩
  | @twoDigits n _ first small last =>
    refine ⟨.group n, 2, ?_, expand_group n, rfl⟩
    have other := digitChar_notMem_marks (show n / 10 < 10 by omega)
    change Template.afterDollar? _ (Nat.digitChar (n / 10) :: Nat.digitChar (n % 10) :: rest) = _
    rw [afterDollar?_of_notMem other, List.head?_cons, Option.bind_some, ← Template.twoDigits,
      group?_twoDigits small, if_pos ⟨first, last⟩]
    rfl
  | @oneDigit n _ first small last other =>
    refine ⟨.group n, 1, ?_, expand_group n, rfl⟩
    have none : (rest.head?.bind fun b =>
        (group? m.groups.length [Nat.digitChar n, b]).map fun piece => (piece, 2)) = none := by
      refine Option.bind_eq_none_iff.mpr fun b behind => Option.map_eq_none_iff.mpr ?_
      by_contra found
      obtain ⟨p, found⟩ := Option.ne_none_iff_exists'.mp found
      obtain ⟨i, digit, rfl⟩ := exists_digitChar (isDigit_of_group? found b (by simp))
      have large := other i digit behind
      rw [twoDigits_of_digitChar n digit, group?_twoDigits (by omega), if_neg (by omega)] at found
      cases found
    rw [afterDollar?_of_notMem (digitChar_notMem_marks small), none, Option.none_or,
      group?_digitChar small, if_pos ⟨first, last⟩]
    rfl

/-- What stands behind a dollar sign introduces what it is taken for. -/
theorem introduces_of_afterDollar? {p : Piece} {k : Nat}
    (h : afterDollar? m.groups.length behind = some (p, k)) :
    Introduces t m behind (p.expand (m.occurrence t)) (behind.drop k) := by
  cases behind with
  | nil => cases h
  | cons a rest =>
    by_cases mark : a ∈ marks
    · simp only [marks, List.mem_cons, List.not_mem_nil, or_false] at mark
      rcases mark with rfl | rfl | rfl | rfl
      all_goals cases h
      · exact .dollar rest
      · exact .matched rest
      · exact .before rest
      · exact .after rest
    · rw [afterDollar?_of_notMem mark, Option.or_eq_some_iff] at h
      rcases h with two | ⟨none, one⟩
      · obtain ⟨b, behind, two⟩ := Option.bind_eq_some_iff.mp two
        obtain ⟨rest, rfl⟩ := List.head?_eq_some_iff.mp behind
        obtain ⟨p, found, same⟩ := Option.map_eq_some_iff.mp two
        cases same
        obtain ⟨n, small, digits, rfl, first, last⟩ := eq_twoDigits_of_group? found
        have introduces := Introduces.twoDigits (t := t) rest first small last
        rw [← digits] at introduces
        rw [expand_group]
        exact introduces
      · obtain ⟨p, found, same⟩ := Option.map_eq_some_iff.mp one
        cases same
        obtain ⟨n, small, rfl, rfl, first, last⟩ := eq_digitChar_of_group? found
        rw [expand_group]
        refine .oneDigit first small last fun i digit behind => ?_
        rw [behind, Option.bind_some, Option.map_eq_none_iff, twoDigits_of_digitChar n digit,
          group?_twoDigits (by omega)] at none
        by_contra range
        rw [if_pos (by omega)] at none
        cases none

end Introduces

section Expand

variable {c : Char} {template behind : Text} {o : Occurrence}

theorem piecesFrom_drop (g skip : Nat) (template : Text) :
    piecesFrom g skip template = piecesFrom g 0 (template.drop skip) := by
  induction template generalizing skip with
  | nil => cases skip <;> rfl
  | cons c rest ih =>
    cases skip with
    | zero => rfl
    | succ skip => exact ih skip

theorem expand_cons_of_ne (other : c ≠ '$') : expand (c :: behind) o = c :: expand behind o := by
  rw [expand, pieces, piecesFrom, if_neg other]
  rfl

theorem expand_of_afterDollar? {p : Piece} {k : Nat}
    (found : afterDollar? o.groups.length behind = some (p, k)) :
    expand ('$' :: behind) o = p.expand o ++ expand (behind.drop k) o := by
  rw [expand, pieces, piecesFrom, if_pos rfl, found]
  dsimp only
  rw [List.flatMap_cons, piecesFrom_drop]
  rfl

theorem expand_of_afterDollar?_none (nothing : afterDollar? o.groups.length behind = none) :
    expand ('$' :: behind) o = '$' :: expand behind o := by
  rw [expand, pieces, piecesFrom, if_pos rfl, nothing]
  rfl

end Expand

variable {t template out : Text} {m : Match}

theorem length_groups_occurrence : (m.occurrence t).groups.length = m.groups.length :=
  List.length_map _

/-- What a template is expanded to follows the rules. -/
theorem expands_expand (t : Text) (m : Match) (template : Text) :
    Expands t m template (expand template (m.occurrence t)) := by
  induction size : template.length using Nat.strongRecOn generalizing template with
  | ind size ih =>
    subst size
    cases template with
    | nil => exact .nil
    | cons c behind =>
      by_cases dollar : c = '$'
      · subst dollar
        cases found : afterDollar? m.groups.length behind with
        | none =>
          rw [expand_of_afterDollar?_none (length_groups_occurrence (t := t) ▸ found)]
          refine .alone (fun piece rest introduces => ?_) (ih _ (Nat.lt_succ_self _) behind rfl)
          obtain ⟨p, k, taken, -⟩ := introduces.afterDollar?
          rw [found] at taken
          cases taken
        | some taken =>
          obtain ⟨p, k⟩ := taken
          rw [expand_of_afterDollar? (length_groups_occurrence (t := t) ▸ found)]
          refine .introduced (introduces_of_afterDollar? found) (ih _ ?_ (behind.drop k) rfl)
          rw [List.length_drop, List.length_cons]
          omega
      · rw [expand_cons_of_ne dollar]
        exact .plain dollar (ih _ (Nat.lt_succ_self _) behind rfl)

/-- The rules leave no choice. -/
theorem Expands.eq (h : Expands t m template out) : out = expand template (m.occurrence t) := by
  induction h with
  | nil => rfl
  | plain other h ih => rw [expand_cons_of_ne other, ih]
  | introduced introduces h ih =>
    obtain ⟨p, k, found, rfl, rfl⟩ := introduces.afterDollar?
    rw [expand_of_afterDollar? (length_groups_occurrence (t := t) ▸ found), ih]
  | @alone behind out nothing h ih =>
    have none : afterDollar? (m.occurrence t).groups.length behind = none := by
      rw [length_groups_occurrence, Option.eq_none_iff_forall_ne_some]
      rintro ⟨p, k⟩ found
      exact nothing _ _ (introduces_of_afterDollar? found)
    rw [expand_of_afterDollar?_none none, ih]

/-- A text as a template that stands for it. -/
def doubled (s : Text) : Text :=
  s.flatMap fun c => if c = '$' then ['$', '$'] else [c]

theorem expand_doubled (s : Text) (o : Occurrence) : expand (doubled s) o = s := by
  induction s with
  | nil => rfl
  | cons c rest ih =>
    by_cases dollar : c = '$'
    · subst dollar
      have pair : afterDollar? o.groups.length ('$' :: doubled rest) = some (.literal '$', 1) := rfl
      exact (expand_of_afterDollar? pair).trans (congrArg ('$' :: ·) ih)
    · rw [doubled, List.flatMap_cons, if_neg dollar, List.singleton_append,
        expand_cons_of_ne dollar]
      exact congrArg (c :: ·) ih

theorem doubled_of_notMem {s : Text} (without : '$' ∉ s) : doubled s = s := by
  induction s with
  | nil => rfl
  | cons c rest ih =>
    obtain ⟨other, later⟩ := List.ne_and_not_mem_of_not_mem_cons without
    rw [doubled, List.flatMap_cons, if_neg (Ne.symm other)]
    exact congrArg (c :: ·) (ih later)

/-- For every text and every match in it, whatever its groups, a template is expanded to what the
rules make of it and to nothing else. A text whose dollar signs are doubled is expanded to the text,
and a template without dollar signs to itself. -/
theorem expand_follows_rules (t : Text) (m : Match) :
    (∀ template out, expand template (m.occurrence t) = out ↔ Expands t m template out) ∧
      (∀ s, expand (doubled s) (m.occurrence t) = s) ∧
      ∀ template, '$' ∉ template → expand template (m.occurrence t) = template := by
  refine ⟨fun template out => ⟨?_, fun h => h.eq.symm⟩, fun s => expand_doubled s _, ?_⟩
  · rintro rfl
    exact expands_expand t m template
  · intro template without
    have plain := expand_doubled template (m.occurrence t)
    rwa [doubled_of_notMem without] at plain

/-- A match with two groups of which the second took no part: `$10` and `$02` name the groups one
and two, `$0` and the sign at the end nothing. -/
theorem unmatchedGroup_expanded :
    let t := "price: 10".toList
    let m : Match := ⟨2, 5, [some (2, 4), none]⟩
    Expands t m "$$$1<$10$02>$0$`$&$'$".toList "$ic<ic0>$0price: 10$".toList ∧
      Template.expand (doubled "$&$1".toList) (m.occurrence t) = "$&$1".toList ∧
      Template.expand "&1".toList (m.occurrence t) = "&1".toList := by
  intro t m
  obtain ⟨rules, doubles, plain⟩ := expand_follows_rules t m
  exact ⟨(rules _ _).mp (by decide), doubles _, plain _ (by decide)⟩

end Template

end Spreadsheet.Pattern

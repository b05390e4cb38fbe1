import Spreadsheet.Proofs.MatchingPrograms

/-!
# Matches after each other

Every way through a program notes the position at which it starts, and may note a later one as its
end. So a match starts where the search for it began or behind, ends inside of the text and not
before its start, and the matches in a text follow one another without overlapping.
-/

namespace Spreadsheet.Pattern

/-- The start of a match has been noted between two positions, and its end, if it has been noted,
behind the start. -/
def Between (least position : Nat) (slots : Array (Option Nat)) : Prop :=
  ∃ start, slots[0]? = some (some start) ∧ least ≤ start ∧ start ≤ position ∧
    ∀ stop, slots[1]? = some (some stop) → start ≤ stop ∧ stop ≤ position

/-- A way that has left the start of a program. -/
structure Program.Follows (p : Program) (least position : Nat) (w : Way) : Prop where
  left : w.instruction ≠ p.start
  between : Between least position w.slots

section Search

variable {p : Program} {text : Array Char} {least position later : Nat} {w : Way}

theorem Between.mono {slots : Array (Option Nat)} (h : Between least position slots)
    (le : position ≤ later) : Between least later slots := by
  obtain ⟨start, noted, first, last, stops⟩ := h
  refine ⟨start, noted, first, Nat.le_trans last le, fun stop hstop => ?_⟩
  obtain ⟨order, inside⟩ := stops stop hstop
  exact ⟨order, Nat.le_trans inside le⟩

/-- A way goes on to another instruction, at the same position or a later one. -/
theorem Program.Follows.goesOn (entered : p.Entered) {i : Instruction} {next : Nat}
    (here : p.code[w.instruction]? = some i) (target : next ∈ i.targets) (le : position ≤ later)
    (h : p.Follows least position w) : p.Follows least later { w with instruction := next } :=
  ⟨fun back => entered.left _ _ here (back ▸ target), h.between.mono le⟩

/-- A way comes by an instruction that notes the position. At the start of a program this is the
start of the match, and later it is something else. -/
theorem follows_save (entered : p.Entered) (le : least ≤ position) {slot next : Nat}
    (here : p.code[w.instruction]? = some (.save slot next))
    (h : w = p.fresh ∨ p.Follows least position w) :
    p.Follows least position ⟨next, w.slots.setIfInBounds slot (some position)⟩ := by
  refine ⟨fun back => entered.left _ _ here (List.mem_singleton.mpr back.symm), ?_⟩
  rcases h with rfl | ⟨left, start, noted, first, last, stops⟩
  · obtain ⟨next', notes⟩ := entered.notes
    have same : some (Instruction.save slot next) = some (.save 0 next') := here.symm.trans notes
    cases same
    refine ⟨position, ?_, le, Nat.le_refl _, fun stop hstop => ?_⟩
    · simp [Program.fresh]
    · simp [Program.fresh] at hstop
  · have other : slot ≠ 0 := by
      rintro rfl
      exact left (entered.once _ _ here)
    refine ⟨start, ?_, first, last, fun stop hstop => ?_⟩
    · rw [Array.getElem?_setIfInBounds_ne other, noted]
    · rw [Array.getElem?_setIfInBounds] at hstop
      split at hstop
      · split at hstop
        · cases hstop
          exact ⟨last, Nat.le_refl _⟩
        · cases hstop
      · exact stops stop hstop

/-- The start of a program does nothing but note the position. -/
theorem follows_of_not_save (entered : p.Entered)
    (here : ∀ slot next, p.code[w.instruction]? ≠ some (.save slot next))
    (h : w = p.fresh ∨ p.Follows least position w) : p.Follows least position w := by
  rcases h with rfl | follows
  · obtain ⟨next, notes⟩ := entered.notes
    exact absurd notes (here 0 next)
  · exact follows

/-- Ways that have been settled have left the start. -/
theorem follows_settle (entered : p.Entered) (le : least ≤ position) {fuel : Nat}
    {stack : List Way} {met : Array Bool} {settled : Array Way}
    (waiting : ∀ w ∈ stack, w = p.fresh ∨ p.Follows least position w)
    (done : ∀ w ∈ settled, p.Follows least position w) :
    ∀ w ∈ settle p text position fuel stack met settled, p.Follows least position w := by
  induction fuel generalizing stack met settled with
  | zero => exact done
  | succ fuel ih =>
    cases stack with
    | nil => exact done
    | cons w stack =>
      obtain ⟨first, waiting⟩ := List.forall_mem_cons.mp waiting
      rw [settle]
      split
      · exact ih waiting done
      dsimp only
      split
      · rename_i preferred other here
        have follows := follows_of_not_save entered (by simp [here]) first
        have both : ∀ next ∈ [preferred, other],
            p.Follows least position { w with instruction := next } :=
          fun next target => follows.goesOn entered here target (Nat.le_refl _)
        have second := List.forall_mem_cons.mpr ⟨.inr (both other (by simp)), waiting⟩
        exact ih (List.forall_mem_cons.mpr ⟨.inr (both preferred (by simp)), second⟩) done
      · rename_i slot next here
        have saved := follows_save entered le here first
        exact ih (List.forall_mem_cons.mpr ⟨.inr saved, waiting⟩) done
      · rename_i a next here
        have follows := follows_of_not_save entered (by simp [here]) first
        have on := follows.goesOn entered here (List.mem_singleton_self next) (Nat.le_refl _)
        split
        · exact ih (List.forall_mem_cons.mpr ⟨.inr on, waiting⟩) done
        · exact ih waiting done
      · rename_i other _
        have follows := follows_of_not_save entered other first
        refine ih waiting fun w' hw' => ?_
        rcases Array.mem_push.mp hw' with old | rfl
        · exact done w' old
        · exact follows

theorem follows_settleAll (entered : p.Entered) (le : least ≤ position) {ways : List Way}
    (waiting : ∀ w ∈ ways, w = p.fresh ∨ p.Follows least position w) :
    ∀ w ∈ settleAll p text position ways, p.Follows least position w := by
  intro w hw
  have none : ∀ w ∈ (#[] : Array Way), p.Follows least position w :=
    fun w hw => absurd hw (Array.not_mem_empty w)
  exact follows_settle entered le waiting none w (Array.mem_toList_iff.mp hw)

/-- Past a character. -/
theorem follows_advance (entered : p.Entered) (next : Option Char) {ways : List Way}
    (h : ∀ w ∈ ways, p.Follows least position w) :
    (∀ w ∈ (advance p next ways).1, p.Follows least (position + 1) w) ∧
      ∀ w, (advance p next ways).2 = some w → Between least position w.slots := by
  induction ways with
  | nil => exact ⟨nofun, nofun⟩
  | cons w rest ih =>
    obtain ⟨first, later⟩ := List.forall_mem_cons.mp h
    obtain ⟨goes, found⟩ := ih later
    rw [advance]
    split
    · rename_i set goal here
      have on := first.goesOn entered here (List.mem_singleton_self goal) (Nat.le_succ position)
      dsimp only
      split
      · exact ⟨List.forall_mem_cons.mpr ⟨on, goes⟩, found⟩
      · exact ⟨goes, found⟩
    · refine ⟨nofun, fun w' hw' => ?_⟩
      cases hw'
      exact first.between
    · exact ⟨goes, found⟩

/-- What a search finds lies between where it began and the end of the text. -/
theorem between_searchFrom (entered : p.Entered) {fuel : Nat} {ways : List Way}
    {found : Option Way} (le : least ≤ position) (fits : position + fuel ≤ text.size + 1)
    (waiting : ∀ w ∈ ways, p.Follows least position w)
    (before : ∀ w, found = some w → Between least text.size w.slots) :
    ∀ w, searchFrom p text fuel position ways found = some w → Between least text.size w.slots := by
  induction fuel generalizing position ways found with
  | zero => exact before
  | succ fuel ih =>
    rw [searchFrom]
    dsimp only
    have all : ∀ w ∈ (if found.isNone then ways ++ [p.fresh] else ways),
        w = p.fresh ∨ p.Follows least position w := by
      intro w hw
      split at hw
      · rcases List.mem_append.mp hw with old | new
        · exact .inr (waiting w old)
        · exact .inl (List.mem_singleton.mp new)
      · exact .inr (waiting w hw)
    generalize (if found.isNone then ways ++ [p.fresh] else ways) = ways at all
    split
    · exact before
    · have settled : ∀ w ∈ settleAll p text position ways, p.Follows least position w :=
        follows_settleAll entered le all
      obtain ⟨goes, better⟩ := follows_advance entered text[position]? settled
      refine ih (by omega) (by omega) goes fun w hw => ?_
      rcases Option.or_eq_some_iff.mp hw with now | ⟨-, earlier⟩
      · exact (better w now).mono (by omega)
      · exact before w earlier

/-- A match is what has been noted of its start and its end. -/
theorem noted_of_ofSlots {slots : Array (Option Nat)} {m : Match}
    (h : Match.ofSlots p slots = some m) :
    slots[0]? = some (some m.start) ∧ slots[1]? = some (some m.stop) := by
  obtain ⟨⟨start, stop⟩, span, same⟩ := Option.bind_eq_some_iff.mp h
  cases same
  obtain ⟨start', first, span⟩ := Option.bind_eq_some_iff.mp span
  obtain ⟨stop', last, span⟩ := Option.bind_eq_some_iff.mp span
  cases span
  exact ⟨Option.join_eq_some_iff.mp first, Option.join_eq_some_iff.mp last⟩

/-- A match is found where the search begins or behind, inside of the text. -/
theorem order_of_find? (entered : p.Entered) {m : Match} (h : find? p text position = some m) :
    position ≤ m.start ∧ m.start ≤ m.stop ∧ m.stop ≤ text.size := by
  obtain ⟨w, found, noted⟩ := Option.bind_eq_some_iff.mp h
  by_cases inside : position ≤ text.size
  · obtain ⟨start, begins, first, -, stops⟩ := between_searchFrom entered (Nat.le_refl position)
      (by omega) (List.forall_mem_nil _) (fun w none => by cases none) w found
    obtain ⟨start', stop'⟩ := noted_of_ofSlots noted
    obtain rfl : start = m.start := Option.some.inj (Option.some.inj (begins.symm.trans start'))
    exact ⟨first, stops m.stop stop'⟩
  · rw [show text.size + 1 - position = 0 by omega] at found
    cases found

end Search

/-- Matches in a text of some length, from a position on: none begins before the one before it has
ended. -/
inductive Successive (length : Nat) : Nat → List Match → Prop where
  | nil (position : Nat) : Successive length position []
  | cons {position : Nat} {m : Match} {rest : List Match} (first : position ≤ m.start)
      (order : m.start ≤ m.stop) (inside : m.stop ≤ length) (h : Successive length m.stop rest) :
      Successive length position (m :: rest)

theorem successive_matchesFrom {p : Program} (entered : p.Entered) (text : Array Char)
    (fuel position : Nat) (lastStop : Option Nat) :
    Successive text.size position (matchesFrom p text fuel position lastStop) := by
  induction fuel generalizing position lastStop with
  | zero => exact .nil position
  | succ fuel ih =>
    rw [matchesFrom]
    split
    · rename_i m found
      split at found
      · obtain ⟨first, order, inside⟩ := order_of_find? entered found
        exact .cons (by omega) order inside (ih _ _)
      · obtain ⟨first, order, inside⟩ := order_of_find? entered found
        exact .cons first order inside (ih _ _)
    · exact .nil position

/-- The matches of a pattern in a text come one after the other. -/
theorem successive_matches {pattern : Text} {p : Program} (compiled : compile? pattern = some p)
    (t : Text) : Successive t.length 0 (p.matches t) :=
  successive_matchesFrom (entered_compile? compiled) t.toArray _ _ _

end Spreadsheet.Pattern

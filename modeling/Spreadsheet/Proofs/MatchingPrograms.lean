import Spreadsheet.Pattern.Replacement

/-!
# Programs of patterns

The groups of a pattern are numbered from one on in the order in which they are opened, and the
whole match has the number zero. So of the instructions that a pattern is made into only the last
one, where the program starts, notes the start of the match. All others lead to instructions that
had been there before it, and it is never come back to.
-/

namespace Spreadsheet.Pattern

namespace Node

/-- Every group has a number from one on. -/
def Numbered : Node → Prop
  | empty | chars _ | assertion _ => True
  | capture index body => 1 ≤ index ∧ body.Numbered
  | concat a b | alternate a b => a.Numbered ∧ b.Numbered
  | repetition body _ _ _ => body.Numbered

theorem Numbered.repeated {body : Node} (h : body.Numbered) (least : Nat) (most : Option Nat)
    (greedy : Bool) : (body.repeated least most greedy).Numbered := by
  unfold Node.repeated
  dsimp only
  generalize (if body.onlyEmpty then _ else _ : Nat × Option Nat) = bounds
  split
  · trivial
  · split
    · exact h
    · exact h

theorem numbered_concatAll {nodes : List Node} (h : ∀ n ∈ nodes, n.Numbered) :
    (concatAll nodes).Numbered := by
  induction nodes with
  | nil => trivial
  | cons n rest ih =>
    obtain ⟨first, later⟩ := List.forall_mem_cons.mp h
    cases rest with
    | nil => exact first
    | cons => exact ⟨first, ih later⟩

theorem numbered_alternateAll {nodes : List Node} (h : ∀ n ∈ nodes, n.Numbered) :
    (alternateAll nodes).Numbered := by
  induction nodes with
  | nil => trivial
  | cons n rest ih =>
    obtain ⟨first, later⟩ := List.forall_mem_cons.mp h
    cases rest with
    | nil => exact first
    | cons => exact ⟨first, ih later⟩

end Node

section Parts

/-- The groups of the parts that have been read are numbered from one on. -/
def NumberedParts (parts : List Part) : Prop :=
  ∀ part ∈ parts, part.node.Numbered

variable {parts : List Part}

theorem NumberedParts.cons {part : Part} (first : part.node.Numbered) (h : NumberedParts parts) :
    NumberedParts (part :: parts) :=
  List.forall_mem_cons.mpr ⟨first, h⟩

theorem numberedParts_nil : NumberedParts [] :=
  List.forall_mem_nil _

theorem NumberedParts.nodes (h : NumberedParts parts) :
    ∀ n ∈ parts.reverse.map (·.node), n.Numbered := by
  intro n hn
  obtain ⟨part, read, rfl⟩ := List.mem_map.mp hn
  exact h part (List.mem_reverse.mp read)

theorem NumberedParts.sequencePart (h : NumberedParts parts) :
    (sequencePart parts).node.Numbered := by
  unfold Pattern.sequencePart
  split
  · trivial
  · rename_i p
    exact h p List.mem_cons_self
  · exact Node.numbered_concatAll h.nodes

theorem NumberedParts.alternativesPart (h : NumberedParts parts) :
    (alternativesPart parts).node.Numbered := by
  unfold Pattern.alternativesPart
  split
  · exact h _ List.mem_cons_self
  · exact Node.numbered_alternateAll h.nodes

theorem NumberedParts.repeatLast? {f : Flags} {least : Nat} {most : Option Nat} {isLazy : Bool}
    {repeated : List Part} (h : NumberedParts parts)
    (read : repeatLast? f parts least most isLazy = some repeated) : NumberedParts repeated := by
  unfold Pattern.repeatLast? at read
  split at read
  · obtain ⟨first, before⟩ := List.forall_mem_cons.mp h
    split at read
    · cases read
      exact .cons (first.repeated _ _ _) before
    · cases read
  · cases read

/-- Groups are counted as they are opened, from one on. -/
theorem groups_of_groupStart {r inner : Reader} (h : groupStart r = .capture inner) :
    inner.groups = r.groups + 1 := by
  unfold groupStart at h
  dsimp only at h
  split at h
  case h_5 | h_6 =>
    split at h
    · cases h
      rfl
    · cases h
  case h_7 =>
    split at h
    · cases h
    · split at h <;> cases h
    · cases h
  case h_8 =>
    cases h
    rfl
  all_goals cases h

theorem numbered_primitive? {f : Flags} {t rest : Text} {part : Part}
    (h : primitive? f t = some (part, rest)) : part.node.Numbered := by
  unfold primitive? at h
  split at h
  · cases h
  · obtain ⟨⟨escape, rest⟩, -, h⟩ := Option.bind_eq_some_iff.mp h
    cases escape <;> (cases h; trivial)
  · obtain ⟨set, -, h⟩ := Option.map_eq_some_iff.mp h
    cases h
    trivial
  all_goals
    cases h
    trivial

theorem numbered_parts? {fuel : Nat} {r r' : Reader} {done others : List Part} {part : Part}
    (read : NumberedParts done) (before : NumberedParts others)
    (h : parts? fuel r done others = some (part, r')) : part.node.Numbered := by
  induction fuel generalizing r r' done others part with
  | zero => cases h
  | succ fuel ih =>
    have again : ∀ {least most isLazy rest},
        ((repeatLast? r.flags done least most isLazy).bind fun repeated =>
          parts? fuel { r with rest } repeated others) = some (part, r') → part.node.Numbered := by
      intro least most isLazy rest h
      obtain ⟨repeated, found, h⟩ := Option.bind_eq_some_iff.mp h
      exact ih (read.repeatLast? found) before h
    rw [parts?] at h
    dsimp only at h
    split at h
    · cases h
      exact (before.cons read.sequencePart).alternativesPart
    · cases h
      exact (before.cons read.sequencePart).alternativesPart
    · exact ih numberedParts_nil (before.cons read.sequencePart) h
    · exact again h
    · exact again h
    · exact again h
    · obtain ⟨bounds, -, h⟩ := Option.bind_eq_some_iff.mp h
      exact again h
    · obtain ⟨set, -, h⟩ := Option.bind_eq_some_iff.mp h
      refine ih ?_ before h
      exact read.cons trivial
    · split at h
      · cases h
      · refine ih ?_ before h
        exact read.cons trivial
      · obtain ⟨⟨body, after⟩, inside, h⟩ := Option.bind_eq_some_iff.mp h
        have numbered := ih numberedParts_nil numberedParts_nil inside
        split at h
        · rename_i same
          cases same
          have grouped : NumberedParts (⟨body.node, body.depth + 1, true⟩ :: done) :=
            .cons numbered read
          exact ih grouped before h
        · cases h
      · rename_i inner opened
        obtain ⟨⟨body, after⟩, inside, h⟩ := Option.bind_eq_some_iff.mp h
        have numbered := ih numberedParts_nil numberedParts_nil inside
        have first : 1 ≤ inner.groups := by
          rw [groups_of_groupStart opened]
          exact Nat.le_add_left 1 _
        split at h
        · rename_i same
          cases same
          have captured : NumberedParts
              (⟨.capture inner.groups body.node, body.depth + 1, true⟩ :: done) :=
            .cons ⟨first, numbered⟩ read
          exact ih captured before h
        · cases h
    · obtain ⟨⟨single, rest⟩, found, h⟩ := Option.bind_eq_some_iff.mp h
      exact ih (read.cons (numbered_primitive? found)) before h

end Parts

/-- The groups of a pattern are numbered from one on. -/
theorem numbered_parse? {t : Text} {n : Node} (h : parse? t = some n) : n.Numbered := by
  obtain ⟨⟨part, r⟩, read, h⟩ := Option.bind_eq_some_iff.mp h
  have numbered := numbered_parts? numberedParts_nil numberedParts_nil read
  split at h
  · rename_i same
    cases same
    split at h
    · cases h
      exact numbered
    · cases h
  · cases h

/-- The instructions that come after an instruction. -/
def Instruction.targets : Instruction → List Nat
  | .chars _ next | .assertion _ next | .save _ next => [next]
  | .split preferred other => [preferred, other]
  | .accept => []

/-- Inside of a match: what comes after lies below a bound, and the start of the match is not noted
any more. -/
structure Instruction.Inner (bound : Nat) (i : Instruction) : Prop where
  targets : ∀ next ∈ i.targets, next < bound
  start : ∀ next, i ≠ .save 0 next

/-- Code that is not left and does not note where a match starts. -/
def Closed (code : Array Instruction) : Prop :=
  ∀ i ∈ code, i.Inner code.size

/-- A builder adds to closed code, which stays closed, and returns a place in it. -/
structure Adds (b : Builder Nat) (code : Array Instruction) : Prop where
  closed : Closed (b.run code).2
  inside : (b.run code).1 < (b.run code).2.size
  grows : code.size ≤ (b.run code).2.size

/-- A builder that is told where to go on. -/
def Continues (body : Nat → Builder Nat) : Prop :=
  ∀ next code, Closed code → next < code.size → Adds (body next) code

section Emitted

variable {code : Array Instruction} {next : Nat} {body : Nat → Builder Nat}

theorem Instruction.Inner.mono {bound bound' : Nat} {i : Instruction} (h : i.Inner bound)
    (le : bound ≤ bound') : i.Inner bound' :=
  ⟨fun next after => Nat.lt_of_lt_of_le (h.targets next after) le, h.start⟩

theorem Closed.push (closed : Closed code) {i : Instruction} (inner : i.Inner code.size) :
    Closed (code.push i) := by
  intro j hj
  rw [Array.size_push]
  rcases Array.mem_push.mp hj with old | rfl
  · exact (closed j old).mono (Nat.le_succ _)
  · exact inner.mono (Nat.le_succ _)

theorem Closed.setIfInBounds (closed : Closed code) {i : Instruction} (inner : i.Inner code.size)
    (place : Nat) : Closed (code.setIfInBounds place i) := by
  intro j hj
  rw [Array.size_setIfInBounds]
  rcases Array.mem_or_eq_of_mem_setIfInBounds hj with old | rfl
  · exact closed j old
  · exact inner

theorem adds_return (closed : Closed code) (inside : next < code.size) : Adds (pure next) code :=
  ⟨closed, inside, Nat.le_refl _⟩

theorem adds_emit (closed : Closed code) {i : Instruction} (inner : i.Inner code.size) :
    Adds (emit i) code := by
  have size : code.size < (code.push i).size := by
    rw [Array.size_push]
    exact Nat.lt_succ_self _
  exact ⟨closed.push inner, size, Nat.le_of_lt size⟩

theorem Adds.bind {b : Builder Nat} (first : Adds b code)
    (later : ∀ next code', Closed code' → next < code'.size → code.size ≤ code'.size →
      Adds (body next) code') : Adds (b >>= body) code := by
  obtain ⟨closed, inside, grows⟩ := first
  obtain ⟨closed', inside', grows'⟩ := later _ _ closed inside grows
  exact ⟨closed', inside', Nat.le_trans grows grows'⟩

theorem inner_fork {greedy : Bool} {start : Nat} (first : start < code.size)
    (last : next < code.size) : (fork greedy start next).Inner code.size := by
  cases greedy <;> exact ⟨by simp [fork, Instruction.targets, first, last], fun _ => nofun⟩

theorem Continues.emitLoop (h : Continues body) (greedy : Bool) :
    Continues (emitLoop body greedy) := by
  intro next code closed inside
  have reserved : Adds (emit .accept) code := adds_emit closed ⟨nofun, fun _ => nofun⟩
  refine reserved.bind fun turn code' closed' turned grows => ?_
  refine (h turn code' closed' turned).bind fun start code'' closed'' started grows' => ?_
  have goes : next < code''.size := by omega
  have size : (code''.setIfInBounds turn (fork greedy start next)).size = code''.size :=
    Array.size_setIfInBounds
  exact ⟨closed''.setIfInBounds (inner_fork started goes) turn,
    Nat.lt_of_lt_of_eq started size.symm, Nat.le_of_eq size.symm⟩

theorem Continues.emitTimes (h : Continues body) (n : Nat) : Continues (emitTimes body n) := by
  induction n with
  | zero => exact fun next code => adds_return
  | succ n ih =>
    intro next code closed inside
    exact (h next code closed inside).bind fun start code' closed' started _ =>
      ih start code' closed' started

theorem Continues.emitUpTo (h : Continues body) (greedy : Bool) (n : Nat) :
    Continues fun next => emitUpTo body greedy next n := by
  induction n with
  | zero => exact fun next code => adds_return
  | succ n ih =>
    intro next code closed inside
    refine (ih next code closed inside).bind fun rest code' closed' here grows => ?_
    refine (h rest code' closed' here).bind fun start code'' closed'' started grows' => ?_
    exact adds_emit closed'' (inner_fork started (by omega))

theorem adds_emit_one {i : Instruction} (closed : Closed code) (one : i.targets = [next])
    (inside : next < code.size) (start : ∀ next, i ≠ .save 0 next) : Adds (emit i) code :=
  adds_emit closed ⟨by simp [one, inside], start⟩

/-- The instructions of a part of a pattern stay among themselves. -/
theorem Node.Numbered.continues {n : Node} (h : n.Numbered) : Continues n.emit := by
  induction n with
  | empty => exact fun next code => adds_return
  | chars set | assertion a =>
    exact fun next code closed inside => adds_emit_one closed rfl inside fun _ => nofun
  | capture index body ih =>
    obtain ⟨first, numbered⟩ := h
    intro next code closed inside
    have noted : ∀ slot next, 1 ≤ slot → ∀ other, Instruction.save slot next ≠ .save 0 other := by
      rintro slot next from_one other ⟨⟩
      omega
    refine (adds_emit_one closed rfl inside (noted _ _ (by omega))).bind
      fun stop code' closed' stopped _ => ?_
    refine (ih numbered stop code' closed' stopped).bind fun start code'' closed'' started _ => ?_
    exact adds_emit_one closed'' rfl started (noted _ _ (by omega))
  | concat a b iha ihb =>
    intro next code closed inside
    exact (ihb h.2 next code closed inside).bind fun between code' closed' here _ =>
      iha h.1 between code' closed' here
  | alternate a b iha ihb =>
    intro next code closed inside
    refine (iha h.1 next code closed inside).bind fun first code' closed' here grows => ?_
    have second := ihb h.2 next code' closed' (by omega)
    refine second.bind fun other code'' closed'' there grows' => ?_
    have before : first < code''.size := by omega
    exact adds_emit closed'' ⟨by simp [Instruction.targets, before, there], fun _ => nofun⟩
  | repetition body least most greedy ih =>
    have turn := ih h
    intro next code closed inside
    cases most with
    | none =>
      refine (turn.emitLoop greedy next code closed inside).bind
        fun start code' closed' started grows => ?_
      split
      · exact adds_emit closed' (inner_fork started (by omega))
      · exact turn.emitTimes (least - 1) start code' closed' started
    | some most =>
      exact (turn.emitUpTo greedy (most - least) next code closed inside).bind
        fun rest code' closed' here _ => turn.emitTimes least rest code' closed' here

end Emitted

/-- A match is entered at the start of the program, where its start is noted, and the start is never
come back to. -/
structure Program.Entered (p : Program) : Prop where
  notes : ∃ next, p.code[p.start]? = some (.save 0 next)
  left : ∀ (place : Nat) (i : Instruction), p.code[place]? = some i → p.start ∉ i.targets
  once : ∀ place next : Nat, p.code[place]? = some (.save 0 next) → place = p.start

theorem Program.entered_ofNode {n : Node} (h : n.Numbered) : (Program.ofNode n).Entered := by
  have accepting : Closed #[.accept] := by
    intro i hi
    obtain rfl := Array.mem_singleton.mp hi
    exact ⟨nofun, fun _ => nofun⟩
  have stopping : Adds (emit (.save 1 0)) #[.accept] :=
    adds_emit_one accepting rfl Nat.zero_lt_one fun _ => nofun
  -- all but the last instruction, which is where the program starts
  obtain ⟨closed, inside, -⟩ := stopping.bind fun stop code closed here _ =>
    h.continues stop code closed here
  have built : Program.ofNode n =
      let inner := (emit (.save 1 0) >>= n.emit).run #[.accept]
      ⟨inner.2.push (.save 0 inner.1), inner.2.size, n.lastGroup⟩ := rfl
  rw [built]
  generalize (emit (.save 1 0) >>= n.emit).run #[.accept] = inner at closed inside
  obtain ⟨start, code⟩ := inner
  have cases : ∀ (place : Nat) (i : Instruction), (code.push (.save 0 start))[place]? = some i →
      place = code.size ∧ i = .save 0 start ∨ i.Inner code.size := by
    intro place i found
    rw [Array.getElem?_push] at found
    split at found
    · exact .inl ⟨‹_›, (Option.some.inj found).symm⟩
    · exact .inr (closed i (Array.mem_of_getElem? found))
  refine ⟨⟨start, Array.getElem?_push_size⟩, fun place i found last => ?_,
    fun place next found => ?_⟩
  · rcases cases place i found with ⟨-, rfl⟩ | inner
    · exact Nat.ne_of_lt inside (List.mem_singleton.mp last).symm
    · exact Nat.lt_irrefl _ (inner.targets _ last)
  · rcases cases place _ found with ⟨last, -⟩ | inner
    · exact last
    · exact absurd rfl (inner.start next)

/-- What a pattern is made into is entered at its start. -/
theorem entered_compile? {t : Text} {p : Program} (h : compile? t = some p) : p.Entered := by
  obtain ⟨n, parsed, rfl⟩ := Option.map_eq_some_iff.mp h
  exact Program.entered_ofNode (numbered_parse? parsed)

end Spreadsheet.Pattern

import Spreadsheet.Proofs.JsonTokens

/-!
# JSON values as they are written

A value whose numbers are literals is read back from its text, whatever stands behind it.
-/

namespace Spreadsheet.Json

open Text

/-- Values that their text says everything about: numbers are literals, and nothing is unreadable. -/
inductive Exact : Json → Prop
  | null : Exact null
  | bool (b : Bool) : Exact (bool b)
  | number {l : Text} (literal : IsLiteral l) : Exact (number l)
  | text (t : Text) : Exact (text t)
  | array {items : List Json} (each : ∀ item ∈ items, Exact item) : Exact (array items)
  | object {members : List (Text × Json)} (each : ∀ m ∈ members, Exact m.2) :
    Exact (object members)

/-- Rendered, a value is read back, whatever follows that does not lengthen a number. -/
def Reads (j : Json) : Prop :=
  ∀ ⦃fuel : Nat⦄ ⦃rest : Text⦄, j.render.length ≤ fuel → Stops isNumberChar rest →
    value? fuel (j.render ++ rest) = some (j, rest)

theorem skipBlanks_of_first {c : Char} (h : isJsonBlank c = false) (rest : Text) :
    skipBlanks (c :: rest) = c :: rest :=
  (Stops.cons h rest).dropWhile_eq_self

theorem not_blank_of_isNumberChar {c : Char} (h : isNumberChar c = true) :
    isJsonBlank c = false := by
  rw [← Bool.not_eq_true]
  intro blank
  simp only [isJsonBlank, Bool.or_eq_true, beq_iff_eq] at blank
  rcases blank with ((rfl | rfl) | rfl) | rfl <;> revert h <;> decide

theorem BeginsLiteral.not_blank {c : Char} (first : BeginsLiteral c) : isJsonBlank c = false := by
  apply not_blank_of_isNumberChar
  rcases first with rfl | digit
  · rfl
  · exact isNumberChar_of_isDigit digit

/-- The text of a value begins neither with a blank nor with a closing bracket. -/
theorem Exact.render_first {j : Json} (exact : Exact j) :
    ∃ c t, j.render = c :: t ∧ isJsonBlank c = false ∧ c ≠ ']' := by
  cases exact with
  | null => exact ⟨_, _, rfl, rfl, by decide⟩
  | bool b => cases b <;> exact ⟨_, _, rfl, rfl, by decide⟩
  | number literal =>
    obtain ⟨c, t, rfl, first⟩ := literal?_first literal
    exact ⟨c, t, rfl, first.not_blank, first.ne (by decide)⟩
  | text t => exact ⟨_, _, by rw [render, quote], rfl, by decide⟩
  | array each => exact ⟨_, _, by rw [render], rfl, by decide⟩
  | object each => exact ⟨_, _, by rw [render], rfl, by decide⟩

section Values

variable {fuel : Nat} {rest : Text}

/-- What begins like a number is read as one. -/
theorem value?_literal {c : Char} (first : BeginsLiteral c) (t : Text) :
    value? (fuel + 1) (c :: t) = (literal? (c :: t)).map fun (l, rest) => (number l, rest) := by
  rw [value?, skipBlanks_of_first first.not_blank]
  split
  case h_7 => rfl
  all_goals
    rename_i same
    exact absurd (List.cons.inj same).1 (first.ne (by decide))

/-- Nothing is read without work left, and a value has some text. -/
theorem Exact.exists_succ {j : Json} (exact : Exact j) (enough : j.render.length ≤ fuel) :
    ∃ n, fuel = n + 1 := by
  obtain ⟨c, t, first, -⟩ := exact.render_first
  rw [first, List.length_cons] at enough
  exact Nat.exists_eq_add_one_of_ne_zero (by omega)

section Steps

variable {t u : Text} {item : Json} {name : Option Text}

theorem value?_text {value : Text} (read : string? fuel t = some (some value, rest)) :
    value? (fuel + 1) ('"' :: t) = some (text value, rest) := by
  rw [value?, skipBlanks_of_first rfl]
  simp only [read]
  rfl

theorem value?_array {c : Char} {items : List Json} (shown : isJsonBlank c = false)
    (no_bracket : c ≠ ']') (read : items? fuel (c :: t) = some (items, rest)) :
    value? (fuel + 1) ('[' :: c :: t) = some (array items, rest) := by
  have first := skipBlanks_of_first shown t
  rw [value?, skipBlanks_of_first rfl]
  simp only [first]
  split
  · rename_i same
    exact absurd (List.cons.inj same).1 no_bracket
  · rw [read]
    rfl

theorem value?_object {members : List (Text × Json)}
    (read : members? fuel ('"' :: t) = some (some members, rest)) :
    value? (fuel + 1) ('\x7b' :: '"' :: t) = some (object members, rest) := by
  have first : skipBlanks ('"' :: t) = '"' :: t := skipBlanks_of_first rfl t
  rw [value?, skipBlanks_of_first rfl]
  simp only [first]
  change (members? fuel ('"' :: t)).map _ = _
  rw [read]
  rfl

theorem items?_last (read : value? fuel t = some (item, ']' :: rest)) :
    items? (fuel + 1) t = some ([item], rest) := by
  simp only [items?, read]
  rfl

theorem items?_cons (read : value? fuel t = some (item, ',' :: rest)) :
    items? (fuel + 1) t =
      (items? fuel rest).map fun (items, rest) => (item :: items, rest) := by
  simp only [items?, read]
  rfl

theorem members?_last (named : string? fuel t = some (name, ':' :: u))
    (read : value? fuel u = some (item, '\x7d' :: rest)) :
    members? (fuel + 1) ('"' :: t) = some (addMember? name item (some []), rest) := by
  have shown : skipBlanks ('"' :: t) = '"' :: t := skipBlanks_of_first rfl t
  have colon : skipBlanks (':' :: u) = ':' :: u := skipBlanks_of_first rfl u
  simp only [members?, shown, named, Option.bind_eq_bind, Option.bind_some, colon, read]
  rfl

theorem members?_cons (named : string? fuel t = some (name, ':' :: u))
    (read : value? fuel u = some (item, ',' :: rest)) :
    members? (fuel + 1) ('"' :: t) =
      (members? fuel rest).map fun (members, rest) =>
        (addMember? name item members, rest) := by
  have shown : skipBlanks ('"' :: t) = '"' :: t := skipBlanks_of_first rfl t
  have colon : skipBlanks (':' :: u) = ':' :: u := skipBlanks_of_first rfl u
  simp only [members?, shown, named, Option.bind_eq_bind, Option.bind_some, colon, read]
  rfl

end Steps

theorem renderItems_cons_cons (item next : Json) (others : List Json) :
    renderItems (item :: next :: others) = item.render ++ ',' :: renderItems (next :: others) := by
  rw [renderItems]
  exact List.cons_ne_nil next others

theorem items?_render {items : List Json} (nonempty : items ≠ [])
    (reads : ∀ item ∈ items, Reads item) (enough : (renderItems items).length < fuel) :
    items? fuel (renderItems items ++ ']' :: rest) = some (items, rest) := by
  induction items generalizing fuel with
  | nil => exact absurd rfl nonempty
  | cons item others ih =>
    obtain ⟨fuel, rfl⟩ := Nat.exists_eq_add_one_of_ne_zero (Nat.ne_zero_of_lt enough)
    have first := reads item List.mem_cons_self
    cases others with
    | nil => exact items?_last (first (Nat.le_of_lt_succ enough) (.cons rfl rest))
    | cons next others =>
      rw [renderItems_cons_cons, List.length_append, List.length_cons] at enough
      let after := renderItems (next :: others) ++ ']' :: rest
      have last : items? fuel after = some (next :: others, rest) :=
        ih (List.cons_ne_nil next others) (fun i hi => reads i (List.mem_cons_of_mem _ hi)) (by omega)
      have read : value? fuel (item.render ++ ',' :: after) = some (item, ',' :: after) :=
        first (by omega) (.cons rfl after)
      rw [renderItems_cons_cons, List.append_assoc, List.cons_append, items?_cons read, last]
      rfl

theorem renderMembers_cons_cons (name : Text) (value : Json) (m : Text × Json)
    (others : List (Text × Json)) :
    renderMembers ((name, value) :: m :: others) =
      quote name ++ ':' :: (value.render ++ ',' :: renderMembers (m :: others)) := by
  rw [renderMembers]
  exact List.cons_ne_nil m others

theorem members?_render {members : List (Text × Json)} (nonempty : members ≠ [])
    (reads : ∀ m ∈ members, Reads m.2) (enough : (renderMembers members).length < fuel) :
    members? fuel (renderMembers members ++ '\x7d' :: rest) = some (some members, rest) := by
  induction members generalizing fuel with
  | nil => exact absurd rfl nonempty
  | cons m others ih =>
    obtain ⟨fuel, rfl⟩ := Nat.exists_eq_add_one_of_ne_zero (Nat.ne_zero_of_lt enough)
    obtain ⟨name, value⟩ := m
    have first : Reads value := reads (name, value) List.mem_cons_self
    cases others with
    | nil =>
      rw [renderMembers, List.length_append, List.length_cons] at enough
      have read : value? fuel (value.render ++ '\x7d' :: rest) = some (value, '\x7d' :: rest) :=
        first (by omega) (.cons rfl rest)
      rw [renderMembers, List.append_assoc, List.cons_append, quote_append]
      exact members?_last (string?_quoted name _ (by omega)) read
    | cons next others =>
      rw [renderMembers_cons_cons, List.length_append, List.length_cons, List.length_append,
        List.length_cons] at enough
      let after := renderMembers (next :: others) ++ '\x7d' :: rest
      have last : members? fuel after = some (some (next :: others), rest) :=
        ih (List.cons_ne_nil next others) (fun m hm => reads m (List.mem_cons_of_mem _ hm)) (by omega)
      have read : value? fuel (value.render ++ ',' :: after) = some (value, ',' :: after) :=
        first (by omega) (.cons rfl after)
      rw [renderMembers_cons_cons, List.append_assoc, List.cons_append, List.append_assoc,
        List.cons_append, quote_append, members?_cons (string?_quoted name _ (by omega)) read, last]
      rfl

theorem reads_number {l : Text} (literal : IsLiteral l) : Reads (number l) := by
  intro fuel rest enough stop
  obtain ⟨fuel, rfl⟩ := (Exact.number literal).exists_succ enough
  obtain ⟨c, t, rfl, first⟩ := literal?_first literal
  rw [render, List.cons_append, value?_literal first, ← List.cons_append,
    literal?_append literal stop]
  rfl

theorem reads_text (t : Text) : Reads (text t) := by
  intro fuel rest enough _
  obtain ⟨fuel, rfl⟩ := (Exact.text t).exists_succ enough
  rw [render, quote_append, value?_text (string?_quoted t rest enough)]

/-- A list of items begins as its first item does. -/
theorem renderItems_first {items : List Json} (nonempty : items ≠ [])
    (each : ∀ item ∈ items, Exact item) :
    ∃ c t, renderItems items = c :: t ∧ isJsonBlank c = false ∧ c ≠ ']' := by
  obtain ⟨item, others, rfl⟩ := List.exists_cons_of_ne_nil nonempty
  obtain ⟨c, t, first, shown, no_bracket⟩ := (each item List.mem_cons_self).render_first
  cases others with
  | nil => exact ⟨c, t, first, shown, no_bracket⟩
  | cons next others =>
    rw [renderItems_cons_cons, first]
    exact ⟨c, _, rfl, shown, no_bracket⟩

theorem renderMembers_first {members : List (Text × Json)} (nonempty : members ≠ []) :
    ∃ t, renderMembers members = '"' :: t := by
  obtain ⟨⟨name, value⟩, others, rfl⟩ := List.exists_cons_of_ne_nil nonempty
  cases others with
  | nil => exact ⟨_, rfl⟩
  | cons next others =>
    rw [renderMembers_cons_cons]
    exact ⟨_, rfl⟩

theorem reads_array {items : List Json} (each : ∀ item ∈ items, Exact item)
    (reads : ∀ item ∈ items, Reads item) : Reads (array items) := by
  intro fuel rest enough _
  obtain ⟨fuel, rfl⟩ := (Exact.array each).exists_succ enough
  by_cases none : items = []
  · subst none
    rfl
  · rw [render, List.length_cons, List.length_append, List.length_singleton] at enough
    have all : items? fuel (renderItems items ++ ']' :: rest) = some (items, rest) :=
      items?_render none reads (by omega)
    obtain ⟨c, t, first, shown, no_bracket⟩ := renderItems_first none each
    rw [first] at all
    rw [render, first, List.cons_append, List.append_assoc]
    exact value?_array shown no_bracket all

theorem reads_object {members : List (Text × Json)} (each : ∀ m ∈ members, Exact m.2)
    (reads : ∀ m ∈ members, Reads m.2) : Reads (object members) := by
  intro fuel rest enough _
  obtain ⟨fuel, rfl⟩ := (Exact.object each).exists_succ enough
  by_cases none : members = []
  · subst none
    rfl
  · rw [render, List.length_cons, List.length_append, List.length_singleton] at enough
    have all : members? fuel (renderMembers members ++ '\x7d' :: rest) =
        some (some members, rest) :=
      members?_render none reads (by omega)
    obtain ⟨t, first⟩ := renderMembers_first none
    rw [first] at all
    rw [render, first, List.cons_append, List.append_assoc]
    exact value?_object all

/-- An exact value is read back from its text, and so is any text that follows it. -/
theorem Exact.reads {j : Json} (exact : Exact j) : Reads j := by
  induction exact with
  | null =>
    intro fuel rest enough _
    obtain ⟨fuel, rfl⟩ := Exact.null.exists_succ enough
    rfl
  | bool b =>
    intro fuel rest enough _
    obtain ⟨fuel, rfl⟩ := (Exact.bool b).exists_succ enough
    cases b <;> rfl
  | number literal => exact reads_number literal
  | text t => exact reads_text t
  | array each reads => exact reads_array each reads
  | object each reads => exact reads_object each reads

theorem Exact.parse?_render {j : Json} (exact : Exact j) : parse? j.render = some j := by
  have read := exact.reads (by omega : j.render.length ≤ 2 * j.render.length + 1) (.nil _)
  rw [List.append_nil] at read
  rw [parse?, read]
  rfl

end Values

end Spreadsheet.Json

import LineLog.Proofs.Line

/-!
# Lines one after the other

A line has one newline, which is its last byte.  A byte string that was put together
from lines is taken apart into the same lines by cutting behind every newline, so
there is only one way to put it together, and its newlines count its lines.
-/

namespace LineLog.Bytes

/-- One newline, at the end. -/
def IsLine (bytes : Bytes) : Prop :=
  ∃ front, newline ∉ front ∧ bytes = front ++ [newline]

theorem isLine_of_line? {bytes line : Bytes} (hline : bytes.line? = some line) :
    line.IsLine := by
  obtain ⟨front, rest, hfront, rfl, -⟩ := line?_eq_some_iff.mp hline
  exact ⟨front, hfront, rfl⟩

@[simp]
theorem records_nil : Bytes.records [] = [] := rfl

theorem records_newline_cons (rest : Bytes) :
    Bytes.records (newline :: rest) = [newline] :: rest.records := by
  simp [records]

/-- A byte that is not a newline belongs to the piece behind it. -/
theorem records_cons {byte : Byte} {rest piece : Bytes} {others : List Bytes}
    (hbyte : byte ≠ newline) (hrest : rest.records = piece :: others) :
    Bytes.records (byte :: rest) = (byte :: piece) :: others := by
  unfold records at hrest ⊢
  rw [List.foldr_cons, if_neg hbyte, hrest]

/-- The first cut is behind the first newline. -/
theorem records_append_newline {front : Bytes} (hfront : newline ∉ front) (rest : Bytes) :
    Bytes.records (front ++ newline :: rest) = (front ++ [newline]) :: rest.records := by
  induction front with
  | nil => exact records_newline_cons rest
  | cons byte front ih =>
      have hbyte : byte ≠ newline := fun hsame => hfront (hsame ▸ List.mem_cons_self ..)
      have hothers : newline ∉ front := fun hmem => hfront (List.mem_cons_of_mem _ hmem)
      exact records_cons hbyte (ih hothers)

namespace IsLine

variable {line : Bytes}

theorem records_append (hline : line.IsLine) (rest : Bytes) :
    Bytes.records (line ++ rest) = line :: rest.records := by
  obtain ⟨front, hfront, rfl⟩ := hline
  rw [List.append_assoc, List.singleton_append]
  exact records_append_newline hfront rest

theorem count_newline (hline : line.IsLine) : line.count newline = 1 := by
  obtain ⟨front, hfront, rfl⟩ := hline
  rw [List.count_append, List.count_eq_zero.mpr hfront, List.count_singleton_self]

end IsLine

variable {lines : List Bytes}

/-- Cutting behind every newline undoes putting lines together. -/
theorem records_flatten (hlines : ∀ line ∈ lines, line.IsLine) :
    Bytes.records lines.flatten = lines := by
  induction lines with
  | nil => rfl
  | cons line lines ih =>
      have hothers : ∀ other ∈ lines, other.IsLine :=
        fun other hmem => hlines other (List.mem_cons_of_mem _ hmem)
      rw [List.flatten_cons, (hlines line (List.mem_cons_self ..)).records_append, ih hothers]

theorem count_newline_flatten (hlines : ∀ line ∈ lines, line.IsLine) :
    lines.flatten.count newline = lines.length := by
  induction lines with
  | nil => rfl
  | cons line lines ih =>
      have hothers : ∀ other ∈ lines, other.IsLine :=
        fun other hmem => hlines other (List.mem_cons_of_mem _ hmem)
      rw [List.flatten_cons, List.count_append, ih hothers,
        (hlines line (List.mem_cons_self ..)).count_newline, List.length_cons, Nat.add_comm]

/-- Two lists of lines that read the same are the same. -/
theorem eq_of_flatten_eq {others : List Bytes} (hlines : ∀ line ∈ lines, line.IsLine)
    (hothers : ∀ other ∈ others, other.IsLine) (hsame : lines.flatten = others.flatten) :
    lines = others := by
  rw [← records_flatten hlines, hsame, records_flatten hothers]

end LineLog.Bytes

import LineLog.Connection.Receive

/-!
# The first line of a byte string

The first line ends in a newline and has none before that.  It does not depend on
what comes behind it, and it can be looked for piece by piece.
-/

namespace LineLog.Bytes

variable {bytes line front : Bytes}

theorem line?_eq_none_iff : bytes.line? = none ↔ newline ∉ bytes := by
  simp only [line?, ite_eq_right_iff, reduceCtorEq, imp_false]

theorem line?_append_newline (hfront : newline ∉ front) (rest : Bytes) :
    Bytes.line? (front ++ newline :: rest) = some (front ++ [newline]) := by
  have hbefore : ∀ byte ∈ front, decide (byte ≠ newline) = true := by
    intro byte hbyte
    rw [decide_eq_true_eq]
    rintro rfl
    exact hfront hbyte
  rw [line?, if_pos (by simp), List.takeWhile_append_of_pos hbefore]
  simp

/-- The first line is what comes up to the first newline and with it. -/
theorem line?_eq_some_iff :
    bytes.line? = some line ↔
      ∃ front rest, newline ∉ front ∧ line = front ++ [newline] ∧
        bytes = front ++ newline :: rest := by
  constructor
  · intro hline
    have hmem : newline ∈ bytes := (Option.ite_none_right_eq_some.mp hline).1
    obtain ⟨front, rest, rfl, hfront⟩ := List.eq_append_cons_of_mem hmem
    rw [line?_append_newline hfront] at hline
    exact ⟨front, rest, hfront, (Option.some.inj hline).symm, rfl⟩
  · rintro ⟨front, rest, hfront, rfl, rfl⟩
    exact line?_append_newline hfront rest

/-- What comes behind the first line does not change it. -/
theorem line?_append (hline : bytes.line? = some line) (more : Bytes) :
    (bytes ++ more).line? = some line := by
  obtain ⟨front, rest, hfront, rfl, rfl⟩ := line?_eq_some_iff.mp hline
  rw [List.append_assoc, List.cons_append]
  exact line?_append_newline hfront (rest ++ more)

/-- The first line may begin in an earlier piece than it ends in. -/
theorem line?_append_of_not_mem (hfront : newline ∉ front) (hline : bytes.line? = some line) :
    (front ++ bytes).line? = some (front ++ line) := by
  obtain ⟨middle, rest, hmiddle, rfl, rfl⟩ := line?_eq_some_iff.mp hline
  rw [← List.append_assoc, ← List.append_assoc]
  exact line?_append_newline (List.not_mem_append hfront hmiddle) rest

theorem ne_nil_of_line? (hline : bytes.line? = some line) : bytes ≠ [] ∧ line ≠ [] := by
  obtain ⟨front, rest, -, rfl, rfl⟩ := line?_eq_some_iff.mp hline
  exact ⟨by simp, by simp⟩

end LineLog.Bytes

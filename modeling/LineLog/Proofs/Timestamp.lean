import LineLog.Proofs.Framing
import LineLog.Timestamp.Basic

/-!
# Timestamp records are lines

Whatever the instant and the zone are, a timestamp record is made of names, digits,
signs and separators, and of one newline behind them.
-/

namespace LineLog.Timestamp

/-- No character of the text becomes a newline. -/
def Inline (text : List Char) : Prop :=
  ∀ char ∈ text, char.toNat.toUInt8 ≠ newline

instance (text : List Char) : Decidable (Inline text) :=
  List.decidableBAll _ text

theorem inline_append_iff {first second : List Char} :
    Inline (first ++ second) ↔ Inline first ∧ Inline second :=
  List.forall_mem_append

theorem inline_cons_iff {char : Char} {text : List Char} :
    Inline (char :: text) ↔ char.toNat.toUInt8 ≠ newline ∧ Inline text :=
  List.forall_mem_cons

theorem inline_getD {names : List String} (hnames : ∀ name ∈ names, Inline name.toList)
    (index : Nat) : Inline (names.getD index "").toList := by
  rw [List.getD_eq_getElem?_getD]
  cases hname : names[index]? with
  | none => exact List.forall_mem_nil _
  | some name => exact hnames name (List.mem_of_getElem? hname)

theorem inline_digit {char : Char} (hdigit : char.isDigit) : char.toNat.toUInt8 ≠ newline := by
  have hbounds : 48 ≤ char.toNat ∧ char.toNat ≤ 57 := by
    simp only [Char.isDigit, Bool.and_eq_true, decide_eq_true_eq, ge_iff_le,
      UInt32.le_iff_toNat_le] at hdigit
    exact hdigit
  intro hsame
  have hvalue : char.toNat % 256 = 10 := congrArg UInt8.toNat hsame
  omega

theorem inline_padded (width value : Nat) : Inline (padded width value) := by
  rw [padded, inline_append_iff]
  constructor
  · intro char hchar
    rw [List.eq_of_mem_replicate hchar]
    decide
  · intro char hchar
    exact inline_digit (Nat.isDigit_of_mem_toDigits (by decide) (by decide) hchar)

theorem inline_yearText (year : Int) : Inline (yearText year) := by
  unfold yearText
  split
  · exact inline_padded 4 _
  · refine inline_cons_iff.mpr ⟨?_, inline_padded 4 _⟩
    split <;> decide

theorem inline_zoneText (offset : Int) : Inline (zoneText offset) := by
  refine inline_append_iff.mpr ⟨inline_cons_iff.mpr ⟨?_, inline_padded 2 _⟩, inline_padded 2 _⟩
  split <;> decide

theorem inline_clockText (localSeconds : Int) (leap : Bool) :
    Inline (clockText localSeconds leap) := by
  have hweekday (index : Nat) : Inline (Calendar.weekdayNames.getD index "").toList :=
    inline_getD (by decide) index
  have hmonth (index : Nat) : Inline (Calendar.monthNames.getD index "").toList :=
    inline_getD (by decide) index
  have hseparators : Inline ", ".toList ∧ Inline [' '] ∧ Inline [':'] := by decide
  obtain ⟨hcomma, hblank, hcolon⟩ := hseparators
  simp only [clockText, inline_append_iff, hweekday, hmonth, hcomma, hblank, hcolon,
    inline_padded, inline_yearText, and_self]

/-- All of a record but its last character. -/
theorem inline_front (instant : Instant) (offset : Int) :
    Inline (label ++ clockText (instant.seconds + offset) instant.isLeap ++ [' '] ++
      zoneText offset) := by
  have hlabel : Inline label := by decide
  have hblank : Inline [' '] := by decide
  simp only [inline_append_iff, hlabel, hblank, inline_clockText, inline_zoneText, and_self]

theorem isLine_recordBytes (instant : Instant) (offset : Int) :
    (recordBytes instant offset).IsLine := by
  refine ⟨_, ?_, List.map_append⟩
  rw [List.mem_map]
  rintro ⟨char, hchar, hnewline⟩
  exact inline_front instant offset char hchar hnewline

end LineLog.Timestamp

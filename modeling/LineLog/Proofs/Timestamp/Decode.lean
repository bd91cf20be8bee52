import LineLog.Proofs.Calendar
import LineLog.Proofs.Timestamp
import LineLog.Timestamp.Decode

/-!
# Timestamp records can be read back

A record is made of fields, each of which can be read back from its place: numbers of a fixed
width, names of three letters, a year that ends at a blank, and a zone of whole minutes.  Since
days and dates correspond, the fields give back the second, whether it is a leap second, and
the offset; only a leap second in the middle of a minute is taken for the second after it.
-/

namespace LineLog.Timestamp

/-! ## Numbers -/

theorem digitValue?_eq {char : Char} (hdigit : char.isDigit) :
    digitValue? char = some (char.toNat - '0'.toNat) := by
  simp only [Char.isDigit, Bool.and_eq_true, decide_eq_true_eq, ge_iff_le] at hdigit
  have hbounds : '0' ≤ char ∧ char ≤ '9' := hdigit
  simp [digitValue?, hbounds]

theorem number?_eq {text : List Char} (htext : text ≠ []) (hdigits : ∀ char ∈ text, char.isDigit) :
    number? text = some (Nat.ofDigitChars 10 text 0) := by
  have hfold (value : Nat) : text.foldl
      (fun value char => do some ((← value) * 10 + (← digitValue? char))) (some value) =
      some (Nat.ofDigitChars 10 text value) := by
    clear htext
    induction text generalizing value with
    | nil => rfl
    | cons char text ih =>
        obtain ⟨hdigit, hrest⟩ := List.forall_mem_cons.mp hdigits
        rw [List.foldl_cons, digitValue?_eq hdigit, Nat.ofDigitChars_cons]
        refine (ih hrest (value * 10 + (char.toNat - '0'.toNat))).trans ?_
        rw [Nat.mul_comm]
  rw [number?, if_neg htext]
  exact hfold 0

theorem isDigit_of_mem_padded {width value : Nat} {char : Char}
    (hchar : char ∈ padded width value) : char.isDigit := by
  rcases List.mem_append.mp hchar with hzero | hdigit
  · rw [List.eq_of_mem_replicate hzero]
    rfl
  · exact Nat.isDigit_of_mem_toDigits (by decide) (by decide) hdigit

theorem padded_ne_nil (width value : Nat) : padded width value ≠ [] :=
  List.append_ne_nil_of_right_ne_nil _ Nat.toDigits_ne_nil

/-- The zeros in front of a number do not change its value. -/
theorem number?_padded (width value : Nat) : number? (padded width value) = some value := by
  have hzeros (count : Nat) : Nat.ofDigitChars 10 (List.replicate count '0') 0 = 0 := by
    induction count with
    | zero => rfl
    | succ count ih =>
        rw [List.replicate_succ, Nat.ofDigitChars_cons]
        exact ih
  rw [number?_eq (padded_ne_nil width value) fun _ => isDigit_of_mem_padded, padded,
    Nat.ofDigitChars_append, hzeros, Nat.ofDigitChars_ten_toDigits]

theorem length_padded {width value : Nat} (hwidth : 0 < width) (hvalue : value < 10 ^ width) :
    (padded width value).length = width := by
  have hlength := (Nat.length_toDigits_le_iff (by decide) hwidth).mpr hvalue
  rw [padded, List.length_append, List.length_replicate]
  exact Nat.sub_add_cancel hlength

/-! ## Years and zones -/

theorem year?_of_digits {text : List Char} (hdigits : ∀ char ∈ text, char.isDigit) :
    year? text = (number? text).map Int.ofNat := by
  unfold year?
  split
  · exact absurd (hdigits '-' List.mem_cons_self) (by decide)
  · exact absurd (hdigits '+' List.mem_cons_self) (by decide)
  · rfl

theorem year?_yearText (year : Int) : year? (yearText year) = some year := by
  unfold yearText
  split
  · next hshort =>
    rw [year?_of_digits fun _ => isDigit_of_mem_padded, number?_padded]
    simp only [Bool.and_eq_true, decide_eq_true_eq] at hshort
    exact congrArg some (Int.toNat_of_nonneg hshort.1)
  · next hlong =>
    simp only [Bool.and_eq_true, decide_eq_true_eq] at hlong
    split
    · rw [year?, number?_padded]
      have habs : -(year.natAbs : Int) = year := by omega
      exact congrArg some habs
    · rw [year?, number?_padded]
      exact congrArg some (Int.natAbs_of_nonneg (by omega))

theorem ne_blank_of_mem_yearText {year : Int} {char : Char} (hchar : char ∈ yearText year) :
    char ≠ ' ' := by
  have hdigit (hdigit : char.isDigit) : char ≠ ' ' := by
    rintro rfl
    cases hdigit
  unfold yearText at hchar
  split at hchar
  · exact hdigit (isDigit_of_mem_padded hchar)
  · rcases List.mem_cons.mp hchar with rfl | hrest
    · split <;> decide
    · exact hdigit (isDigit_of_mem_padded hrest)

structure WholeOffset (offset : Int) : Prop where
  whole : offset % 60 = 0
  valid : validOffset offset = true

theorem WholeOffset.natAbs_lt {offset : Int} (hoffset : WholeOffset offset) :
    offset.natAbs < 86400 := by
  have hvalid := hoffset.valid
  simp only [validOffset, Bool.and_eq_true, decide_eq_true_eq] at hvalid
  unfold day at hvalid
  omega

/-- The sign, hours and minutes of a zone. -/
theorem exists_zoneText_eq {offset : Int} (hoffset : WholeOffset offset) :
    ∃ hours minutes : Nat, hours < 24 ∧ minutes < 60 ∧
      offset.natAbs = (hours * 60 + minutes) * 60 ∧
      zoneText offset =
        (if offset < 0 then '-' else '+') :: (padded 2 hours ++ padded 2 minutes) := by
  have hwhole := hoffset.whole
  have hbound := hoffset.natAbs_lt
  refine ⟨(offset.natAbs + 30) / 60 / 60, (offset.natAbs + 30) / 60 % 60, ?_, ?_, ?_, rfl⟩
  · omega
  · omega
  · omega

theorem length_zoneText {offset : Int} (hoffset : WholeOffset offset) :
    (zoneText offset).length = 5 := by
  obtain ⟨hours, minutes, hhours, hminutes, -, htext⟩ := exists_zoneText_eq hoffset
  rw [htext, List.length_cons, List.length_append, length_padded (by decide) (by omega),
    length_padded (by decide) (by omega)]

theorem zone?_zoneText {offset : Int} (hoffset : WholeOffset offset) :
    zone? (zoneText offset) = some offset := by
  obtain ⟨hours, minutes, hhours, hminutes, hsize, htext⟩ := exists_zoneText_eq hoffset
  have hlength : (padded 2 hours).length = 2 := length_padded (by decide) (by omega)
  have hboth : (padded 2 hours ++ padded 2 minutes).length = 4 := by
    rw [List.length_append, hlength, length_padded (by decide) (by omega)]
  rw [htext]
  simp only [zone?, List.take_left' hlength, List.drop_left' hlength, number?_padded, hboth,
    Option.bind_some, Option.bind_eq_bind]
  by_cases hwest : offset < 0
  · rw [if_pos hwest, if_neg (by decide), if_neg (by decide), if_pos rfl]
    refine congrArg some ?_
    omega
  · rw [if_neg hwest, if_neg (by decide), if_pos rfl]
    refine congrArg some ?_
    omega

/-! ## The fields of a record -/

structure Fields where
  /-- Counted from Sunday. -/
  weekday : Nat
  date : Date
  hour : Nat
  minute : Nat
  second : Nat
  offset : Int

namespace Fields

def weekdayName (fields : Fields) : String :=
  Calendar.weekdayNames.getD fields.weekday ""

def monthName (fields : Fields) : String :=
  Calendar.monthNames.getD (fields.date.month - 1) ""

/-- The fields as they are printed, with what stands between them. -/
def text (fields : Fields) : List Char :=
  label ++ (fields.weekdayName.toList ++ (", ".toList ++ (padded 2 fields.date.day ++ ([' '] ++
    (fields.monthName.toList ++ ([' '] ++ (yearText fields.date.year ++ ([' '] ++
      (padded 2 fields.hour ++ ([':'] ++ (padded 2 fields.minute ++ ([':'] ++
        (padded 2 fields.second ++ ([' '] ++ (zoneText fields.offset ++ ['\n'])))))))))))))))

/-- The fields name a date of the calendar with its weekday, and a time of day. -/
structure Valid (fields : Fields) : Prop where
  weekday_eq : fields.weekday = Calendar.weekday (Calendar.dayOfDate fields.date)
  date : fields.date.Valid
  hour_lt : fields.hour < 24
  minute_lt : fields.minute < 60
  /-- A leap second is the second 60. -/
  second_le : fields.second ≤ 60
  offset : WholeOffset fields.offset

/-- The second of the local clock; a leap second belongs to the second before it. -/
def localSeconds (fields : Fields) : Int :=
  Calendar.dayOfDate fields.date * Timestamp.day +
    (fields.hour * 3600 + fields.minute * 60 + if fields.second = 60 then 59 else fields.second)

end Fields

/-- A reading goes on when its first part has been read. -/
theorem bind_of_eq_some {First Whole : Type} {first : Option First} {value : First}
    (hfirst : first = some value) (others : First → Option Whole) :
    first >>= others = others value := by
  rw [hfirst]
  rfl

theorem skip?_append (start text : List Char) : skip? start (start ++ text) = some text := by
  rw [skip?, if_pos (List.isPrefixOf_iff_prefix.mpr (List.prefix_append start text)),
    List.drop_left]

/-- A separator is found behind a field of a fixed width. -/
theorem skip?_drop {field : List Char} {width : Nat} (hfield : field.length = width)
    (start rest : List Char) : skip? start ((field ++ (start ++ rest)).drop width) = some rest := by
  rw [List.drop_left' hfield, skip?_append]

theorem number?_take {value : Nat} (hvalue : value < 100) (rest : List Char) :
    number? ((padded 2 value ++ rest).take 2) = some value := by
  rw [List.take_left' (length_padded (by decide) hvalue), number?_padded]

theorem getElem?_eq_getD {names : List String} {index : Nat} (hindex : index < names.length) :
    names[index]? = some (names.getD index "") := by
  rw [List.getD_eq_getElem?_getD, List.getElem?_eq_getElem hindex, Option.getD_some]

theorem idxOf_getD {names : List String} (hnames : names.Nodup) {index : Nat}
    (hindex : index < names.length) : names.idxOf (names.getD index "") = index := by
  rw [List.getD_eq_getElem?_getD, List.getElem?_eq_getElem hindex, Option.getD_some]
  exact hnames.idxOf_getElem index hindex

theorem length_getD {names : List String} (hnames : ∀ name ∈ names, name.toList.length = 3)
    {index : Nat} (hindex : index < names.length) : (names.getD index "").toList.length = 3 := by
  rw [List.getD_eq_getElem?_getD, List.getElem?_eq_getElem hindex, Option.getD_some]
  exact hnames _ (List.getElem_mem hindex)

/-- The year ends at the blank behind it. -/
theorem year?_takeWhile (year : Int) (rest : List Char) :
    year? ((yearText year ++ ([' '] ++ rest)).takeWhile (· ≠ ' ')) = some year := by
  have hyear : ∀ char ∈ yearText year, decide (char ≠ ' ') = true := by
    intro char hchar
    exact decide_eq_true (ne_blank_of_mem_yearText hchar)
  rw [List.takeWhile_append_of_pos hyear]
  exact (congrArg year? (List.append_nil _)).trans (year?_yearText year)

theorem skip?_dropWhile (year : Int) (rest : List Char) :
    skip? [' '] ((yearText year ++ ([' '] ++ rest)).dropWhile (· ≠ ' ')) = some rest := by
  have hyear : ∀ char ∈ yearText year, decide (char ≠ ' ') = true := by
    intro char hchar
    exact decide_eq_true (ne_blank_of_mem_yearText hchar)
  rw [List.dropWhile_append_of_pos hyear]
  exact skip?_append [' '] rest

/-- The fields of a record are read back. -/
theorem decode?_text {fields : Fields} (hvalid : fields.Valid) :
    decode? fields.text =
      some ⟨fields.localSeconds - fields.offset, fields.second = 60, fields.offset⟩ := by
  have hweekday : fields.weekday < 7 := by
    rw [hvalid.weekday_eq, Calendar.weekday]
    omega
  have hmonth : fields.date.month - 1 < 12 := by
    have hmonth := hvalid.date.month_le
    omega
  have hday : fields.date.day < 100 := by
    have hlast := hvalid.date.day_le
    have hlength := Calendar.daysInMonth_le fields.date.year fields.date.month
    omega
  have hhour : fields.hour < 100 := Nat.lt_trans hvalid.hour_lt (by decide)
  have hminute : fields.minute < 100 := Nat.lt_trans hvalid.minute_lt (by decide)
  have hsecond : fields.second < 100 := Nat.lt_of_le_of_lt hvalid.second_le (by decide)
  have hweekdayLength : fields.weekdayName.toList.length = 3 := length_getD (by decide) hweekday
  have hmonthLength : fields.monthName.toList.length = 3 := length_getD (by decide) hmonth
  have hpadded {value : Nat} (hvalue : value < 100) : (padded 2 value).length = 2 :=
    length_padded (by decide) hvalue
  have hzone (rest : List Char) : zone? ((zoneText fields.offset ++ rest).take 5) =
      some fields.offset := by
    rw [List.take_left' (length_zoneText hvalid.offset), zone?_zoneText hvalid.offset]
  unfold decode? Fields.text
  refine (bind_of_eq_some (skip?_append label _) _).trans ?_
  refine (bind_of_eq_some (skip?_drop hweekdayLength _ _) _).trans ?_
  refine (bind_of_eq_some (number?_take hday _) _).trans ?_
  refine (bind_of_eq_some (skip?_drop (hpadded hday) _ _) _).trans ?_
  refine (bind_of_eq_some (skip?_drop hmonthLength _ _) _).trans ?_
  refine (bind_of_eq_some (year?_takeWhile _ _) _).trans ?_
  refine (bind_of_eq_some (skip?_dropWhile _ _) _).trans ?_
  refine (bind_of_eq_some (number?_take hhour _) _).trans ?_
  refine (bind_of_eq_some (skip?_drop (hpadded hhour) _ _) _).trans ?_
  refine (bind_of_eq_some (number?_take hminute _) _).trans ?_
  refine (bind_of_eq_some (skip?_drop (hpadded hminute) _ _) _).trans ?_
  refine (bind_of_eq_some (number?_take hsecond _) _).trans ?_
  refine (bind_of_eq_some (skip?_drop (hpadded hsecond) _ _) _).trans ?_
  refine (bind_of_eq_some (hzone _) _).trans ?_
  have hend : (zoneText fields.offset ++ ['\n']).drop 5 = ['\n'] :=
    List.drop_left' (length_zoneText hvalid.offset)
  have hmonthName : Calendar.monthNames.idxOf fields.monthName + 1 = fields.date.month := by
    rw [Fields.monthName, idxOf_getD (by decide) hmonth]
    exact Nat.sub_add_cancel hvalid.date.month_pos
  have hweekdayName : Calendar.weekdayNames[Calendar.weekday (Calendar.dayOfDate fields.date)]? =
      some fields.weekdayName := by
    rw [← hvalid.weekday_eq]
    exact getElem?_eq_getD hweekday
  dsimp only
  rw [List.take_left' hweekdayLength, List.take_left' hmonthLength, String.ofList_toList,
    String.ofList_toList, hmonthName, if_neg (not_not_intro hend),
    if_neg (not_not_intro hweekdayName)]
  rfl

/-! ## The record of an instant -/

def Fields.ofInstant (instant : Instant) (offset : Int) : Fields :=
  let localDay := (instant.seconds + offset) / day
  let ofDay := ((instant.seconds + offset) % day).toNat
  { weekday := Calendar.weekday localDay
    date := Calendar.dateOfDay localDay
    hour := ofDay / 3600
    minute := ofDay / 60 % 60
    second := ofDay % 60 + if instant.isLeap then 1 else 0
    offset }

theorem record_eq_text (instant : Instant) (offset : Int) :
    record instant offset = (Fields.ofInstant instant offset).text := by
  unfold record clockText Fields.text
  simp only [List.append_assoc]
  rfl

variable {instant : Instant} {offset : Int}

theorem valid_ofInstant (instant : Instant) (hoffset : WholeOffset offset) :
    (Fields.ofInstant instant offset).Valid where
  weekday_eq := congrArg Calendar.weekday (Calendar.dayOfDate_dateOfDay _).symm
  date := Calendar.valid_dateOfDay _
  hour_lt := by
    have hday : (instant.seconds + offset) % day < 86400 := Int.emod_lt_of_pos _ (by decide)
    simp only [Fields.ofInstant]
    omega
  minute_lt := Nat.mod_lt _ (by decide)
  second_le := by
    simp only [Fields.ofInstant]
    split <;> omega
  offset := hoffset

/-- A leap second is written as one at the end of a minute only. -/
theorem leap_ofInstant (instant : Instant) (offset : Int) :
    (Reading.ofInstant instant offset).leap = true ↔
      instant.isLeap = true ∧ instant.seconds % 60 = 59 := by
  unfold Reading.ofInstant
  split
  · next hmiddle => exact iff_of_false Bool.false_ne_true fun hlast => hmiddle.2 hlast.2
  · next hwhole =>
    refine ⟨fun hleap => ⟨hleap, ?_⟩, And.left⟩
    by_contra hmiddle
    exact hwhole ⟨hleap, hmiddle⟩

theorem seconds_ofInstant (instant : Instant) (offset : Int) :
    (Reading.ofInstant instant offset).seconds =
      instant.seconds + if instant.isLeap = true ∧ instant.seconds % 60 ≠ 59 then 1 else 0 := by
  unfold Reading.ofInstant
  split
  · rfl
  · exact (Int.add_zero _).symm

theorem offset_ofInstant (instant : Instant) (offset : Int) :
    (Reading.ofInstant instant offset).offset = offset := by
  unfold Reading.ofInstant
  split <;> rfl

/-- A leap second at the end of a minute is written as what it is, and so is every other second
that is not one. -/
theorem ofInstant_eq (hleap : instant.isLeap = true → instant.seconds % 60 = 59) (offset : Int) :
    Reading.ofInstant instant offset = ⟨instant.seconds, instant.isLeap, offset⟩ :=
  if_neg fun hmiddle => hmiddle.2 (hleap hmiddle.1)

/-- An instant that can be made from its seconds and nanoseconds is written as what it is. -/
theorem ofInstant_of_valid (hvalid : instant.valid = true) (offset : Int) :
    Reading.ofInstant instant offset = ⟨instant.seconds, instant.isLeap, offset⟩ := by
  simp only [Instant.valid, Bool.and_eq_true, Bool.or_eq_true, Bool.not_eq_true',
    decide_eq_true_eq] at hvalid
  refine ofInstant_eq (fun hleap => ?_) offset
  rcases hvalid.2 with hcommon | hlast
  · cases hleap.symm.trans hcommon
  · exact hlast

/-- Hours, minutes and seconds make up the time of day. -/
theorem clock_eq (ofDay : Nat) (leap : Bool) :
    (ofDay % 60 + (if leap then 1 else 0) = 60 ↔ leap = true ∧ ofDay % 60 = 59) ∧
      ofDay / 3600 * 3600 + ofDay / 60 % 60 * 60 +
        (if ofDay % 60 + (if leap then 1 else 0) = 60 then 59
          else ofDay % 60 + if leap then 1 else 0) =
        ofDay + if leap = true ∧ ofDay % 60 ≠ 59 then 1 else 0 := by
  cases leap with
  | false =>
      have hless : ¬ ofDay % 60 = 60 := by omega
      simp only [Bool.false_eq_true, if_false, Nat.add_zero, hless, false_and, true_and]
      omega
  | true =>
      by_cases hlast : ofDay % 60 = 59
      · simp only [hlast, if_true, ne_eq, not_true, and_false, if_false, true_and]
        omega
      · have hmiddle : ¬ ofDay % 60 + 1 = 60 := by omega
        simp only [hlast, hmiddle, if_true, ne_eq, not_false_iff, and_false, if_false, and_self,
          true_and]
        omega

/-- The fields name the second of the local clock that is written, and whether it is a leap
second. -/
theorem second_ofInstant (instant : Instant) (hoffset : WholeOffset offset) :
    ((Fields.ofInstant instant offset).second = 60 ↔
        (Reading.ofInstant instant offset).leap = true) ∧
      (Fields.ofInstant instant offset).localSeconds =
        (Reading.ofInstant instant offset).seconds + offset := by
  have hwhole := hoffset.whole
  have hpos : 0 ≤ (instant.seconds + offset) % day := Int.emod_nonneg _ (by decide)
  have hsplit := Int.mul_ediv_add_emod (instant.seconds + offset) day
  obtain ⟨ofDay, hofDay⟩ := Int.eq_ofNat_of_zero_le hpos
  -- an offset of whole minutes does not move the second within its minute
  have hsame : instant.seconds % 60 = 59 ↔ ofDay % 60 = 59 := by
    unfold day at hsplit hofDay
    omega
  obtain ⟨hsecond, hsum⟩ := clock_eq ofDay instant.isLeap
  rw [hofDay] at hsplit
  simp only [leap_ofInstant, seconds_ofInstant, ne_eq, hsame, Fields.localSeconds,
    Fields.ofInstant, Calendar.dayOfDate_dateOfDay, hofDay, Int.toNat_natCast]
  refine ⟨hsecond, ?_⟩
  have hclock := congrArg Int.ofNat hsum
  simp only [Int.ofNat_eq_natCast] at hclock
  push_cast at hclock ⊢
  rw [hclock, Int.mul_comm, ← Int.add_assoc, hsplit, Int.add_right_comm]

theorem decode?_record (instant : Instant) (hoffset : WholeOffset offset) :
    decode? (record instant offset) = some (Reading.ofInstant instant offset) := by
  obtain ⟨hsecond, hlocal⟩ := second_ofInstant instant hoffset
  have hflag : decide ((Fields.ofInstant instant offset).second = 60) =
      (Reading.ofInstant instant offset).leap := by
    rw [Bool.eq_iff_iff, decide_eq_true_iff, hsecond]
  have hzone : (Fields.ofInstant instant offset).offset = offset := rfl
  rw [record_eq_text, decode?_text (valid_ofInstant instant hoffset), hlocal, hflag, hzone,
    Int.add_sub_cancel]
  exact congrArg (fun zone => some (Reading.mk _ _ zone)) (offset_ofInstant instant offset).symm

/-- One second more in the middle of a minute is the next second. -/
theorem clockText_middle {localSeconds : Int} (hmiddle : localSeconds % 60 ≠ 59) :
    clockText localSeconds true = clockText (localSeconds + 1) false := by
  have hday : (localSeconds + 1) / day = localSeconds / day := by
    unfold day
    omega
  obtain ⟨ofDay, hofDay⟩ :=
    Int.eq_ofNat_of_zero_le (Int.emod_nonneg localSeconds (by decide : day ≠ 0))
  have hnext : (localSeconds + 1) % day = (ofDay + 1 : Nat) := by
    unfold day at hofDay ⊢
    omega
  have hofMinute : ofDay % 60 ≠ 59 := by
    unfold day at hofDay
    omega
  have hhour : (ofDay + 1) / 3600 = ofDay / 3600 := by omega
  have hminute : (ofDay + 1) / 60 = ofDay / 60 := by omega
  have hsecond : (ofDay + 1) % 60 = ofDay % 60 + 1 := by omega
  simp only [clockText, hday, hofDay, hnext, Int.toNat_natCast, hhour, hminute, hsecond, if_true,
    Bool.false_eq_true, if_false, Nat.add_zero]

/-- The record of an instant is the one of what is written of it. -/
theorem record_ofInstant (instant : Instant) (hoffset : WholeOffset offset) :
    (Reading.ofInstant instant offset).record = record instant offset := by
  have hwhole := hoffset.whole
  rw [Reading.record, record, record, Reading.ofInstant]
  split
  · next hmiddle =>
    have hofMinute : (instant.seconds + offset) % 60 ≠ 59 := by
      have hother := hmiddle.2
      omega
    rw [hmiddle.1, clockText_middle hofMinute, Int.add_right_comm]
    rfl
  · cases instant.isLeap <;> rfl

/-- A record is the label, the local date and time and the offset, and one newline behind them.
It can be read back: the decoder finds the second that is written, whether that is a leap
second, and the offset; and that is the instant itself, but for a leap second in the middle of a
minute.  So two instants have the same record in a zone exactly when the same is written of
them. -/
theorem decodes_record (hwhole : offset % 60 = 0) (hoffset : validOffset offset = true) :
    (∃ fields : Fields, fields.Valid ∧ record instant offset = fields.text ∧
      fields.offset = offset ∧
      fields.localSeconds = (Reading.ofInstant instant offset).seconds + offset ∧
      (fields.second = 60 ↔ (Reading.ofInstant instant offset).leap = true)) ∧
    (∃ line, '\n' ∉ line ∧ record instant offset = line ++ ['\n']) ∧
    decode? (record instant offset) = some (Reading.ofInstant instant offset) ∧
    ((instant.isLeap = true → instant.seconds % 60 = 59) →
      Reading.ofInstant instant offset = ⟨instant.seconds, instant.isLeap, offset⟩) ∧
    ∀ other : Instant, record other offset = record instant offset ↔
      Reading.ofInstant other offset = Reading.ofInstant instant offset := by
  have hminutes : WholeOffset offset := ⟨hwhole, hoffset⟩
  obtain ⟨hsecond, hlocal⟩ := second_ofInstant instant hminutes
  have hfields := valid_ofInstant instant hminutes
  have hdecode := decode?_record instant hminutes
  refine ⟨⟨_, hfields, record_eq_text instant offset, rfl, hlocal, hsecond⟩, ⟨_, ?_, rfl⟩,
    hdecode, fun hleap => ofInstant_eq hleap offset,
    fun other => ⟨fun hsame => ?_, fun hsame => ?_⟩⟩
  · exact fun hnewline => inline_front instant offset '\n' hnewline rfl
  · have hread := congrArg decode? hsame
    rw [hdecode, decode?_record other hminutes] at hread
    exact Option.some.inj hread
  · rw [← record_ofInstant other hminutes, hsame, record_ofInstant instant hminutes]

/-- The last second that can be represented, as a leap second; in the east it belongs to the
next year, which has six digits. -/
theorem decodes_record_latest :
    record ⟨Instant.latest, 1500000000⟩ 34200 =
        "timestamp:Tue, 01 Jan +262143 09:29:60 +0930\n".toList ∧
      decode? (record ⟨Instant.latest, 1500000000⟩ 34200) =
        some ⟨Instant.latest, true, 34200⟩ :=
  ⟨by decide, (decodes_record rfl (by decide)).2.2.1⟩

/-- A leap second in the middle of a minute has the record of the second after it. -/
theorem record_middle :
    record ⟨1704164644, 1500000000⟩ 0 = "timestamp:Tue, 02 Jan 2024 03:04:05 +0000\n".toList ∧
      record ⟨1704164645, 0⟩ 0 = "timestamp:Tue, 02 Jan 2024 03:04:05 +0000\n".toList ∧
      (⟨1704164644, 1500000000⟩ : Instant).isLeap = true ∧
      (⟨1704164645, 0⟩ : Instant).isLeap = false := by
  decide

/-- The year before the year zero, west of Greenwich. -/
example : record ⟨-62167219201, 0⟩ (-34200) =
    "timestamp:Fri, 31 Dec -0001 14:29:59 -0930\n".toList := by
  decide

end LineLog.Timestamp

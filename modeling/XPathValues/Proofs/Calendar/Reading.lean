import Mathlib.Tactic
import XPathValues.Proofs.Calendar.DateLiteral
import XPathValues.Proofs.Calendar.LawfulPart
import XPathValues.Proofs.Value.Reading

/-!
# Reading calendar values

The readers of the eight calendar types share one law: they take the texts of a literal of the type
with an optional zone behind it, and find the value that has the fields of both. The zone is looked
for before the body is read, which does no harm because no body ends like an offset.
-/

namespace XPathValues

open Text Calendar Timezone

variable {text : List Char}

class LiteralPart (α : Type) [CalendarPart α] where
  Literal : Type
  chars : Literal → List Char
  Denotes : Literal → α → Prop
  isBodyChar : ∀ l : Literal, ∀ c ∈ chars l, IsBodyChar c
  quiet : ∀ l : Literal, announcesOffset (chars l) = false
  read?_eq_some_iff : ∀ {text : List Char} {x : α},
    CalendarPart.read? text = some x ↔ ∃ l : Literal, chars l = text ∧ Denotes l x

/-! ## The literals of the eight types -/

instance : LiteralPart CalendarDate where
  Literal := DateLiteral
  chars := DateLiteral.chars
  Denotes := DateLiteral.Denotes
  isBodyChar l c hc := (l.isDateChar_chars c hc).isBodyChar
  quiet l := quiet_of_isDateChar l.isDateChar_chars
  read?_eq_some_iff := CalendarDate.read?_eq_some_iff

theorem TimeOfDay.read?_eq_some_iff {time : TimeOfDay} :
    read? text = some time ↔
      ∃ l : TimeLiteral, l.chars = text ∧ ∃ atEnd, l.Denotes time atEnd := by
  constructor
  · intro h
    obtain ⟨⟨time, atEnd⟩, hclock, rfl⟩ := Option.map_eq_some_iff.mp h
    obtain ⟨l, hl, hdenotes⟩ := readClock?_eq_some_iff.mp hclock
    exact ⟨l, hl, atEnd, hdenotes⟩
  · rintro ⟨l, hl, atEnd, hdenotes⟩
    exact Option.map_eq_some_iff.mpr
      ⟨(time, atEnd), readClock?_eq_some_iff.mpr ⟨l, hl, hdenotes⟩, rfl⟩

instance : LiteralPart TimeOfDay where
  Literal := TimeLiteral
  chars := TimeLiteral.chars
  Denotes l time := ∃ atEnd, l.Denotes time atEnd
  isBodyChar := TimeLiteral.isBodyChar_chars
  quiet := TimeLiteral.announcesOffset_append_chars []
  read?_eq_some_iff := TimeOfDay.read?_eq_some_iff

structure DateTimeLiteral where
  date : DateLiteral
  time : TimeLiteral

namespace DateTimeLiteral

def chars (l : DateTimeLiteral) : List Char :=
  l.date.chars ++ 'T' :: l.time.chars

/-- The end of a day is the midnight of the day after, which has to be in the calendar too. -/
inductive Denotes (l : DateTimeLiteral) : Moment → Prop
  | within {m : Moment} (date : l.date.Denotes m.date) (time : l.time.Denotes m.time false) :
    Denotes l m
  | endOfDay {day : CalendarDate} {m : Moment} (date : l.date.Denotes day)
    (time : l.time.Denotes m.time true) (next : m.date.dayNumber = day.dayNumber + 1) : Denotes l m

theorem isBodyChar_chars (l : DateTimeLiteral) : ∀ c ∈ l.chars, IsBodyChar c :=
  List.forall_mem_append.mpr ⟨fun c hc => (l.date.isDateChar_chars c hc).isBodyChar,
    List.forall_mem_cons.mpr ⟨Or.inr (Or.inr (Or.inr (Or.inr rfl))), l.time.isBodyChar_chars⟩⟩

theorem announcesOffset_chars (l : DateTimeLiteral) : announcesOffset l.chars = false := by
  have hquiet := TimeLiteral.announcesOffset_append_chars (l.date.chars ++ ['T']) l.time
  rwa [List.append_assoc] at hquiet

end DateTimeLiteral

theorem CalendarDate.next?_eq_some_iff {date next : CalendarDate} :
    date.next? = some next ↔ next.dayNumber = date.dayNumber + 1 := by
  constructor
  · exact dayNumber_of_ofDayNumber?
  · intro h
    rw [CalendarDate.next?, ← h, ofDayNumber?_dayNumber]

theorem Moment.read?_eq_some_iff {m : Moment} :
    read? text = some m ↔ ∃ l : DateTimeLiteral, l.chars = text ∧ l.Denotes m := by
  constructor
  · intro h
    obtain ⟨⟨dateText, timeText⟩, hcut, h⟩ := Option.bind_eq_some_iff.mp h
    obtain ⟨date, hdateRead, h⟩ := Option.bind_eq_some_iff.mp h
    obtain ⟨⟨time, atEnd⟩, htimeRead, hmoment⟩ := Option.bind_eq_some_iff.mp h
    obtain ⟨c, hc, _, rfl⟩ := cutAt?_eq_some hcut
    obtain rfl : c = 'T' := by simpa using hc
    obtain ⟨dateLiteral, rfl, hdate⟩ := CalendarDate.read?_eq_some_iff.mp hdateRead
    obtain ⟨timeLiteral, rfl, htime⟩ := TimeOfDay.readClock?_eq_some_iff.mp htimeRead
    refine ⟨⟨dateLiteral, timeLiteral⟩, rfl, ?_⟩
    cases atEnd with
    | false =>
      obtain rfl := Option.some.inj hmoment
      exact .within hdate htime
    | true =>
      obtain ⟨next, hnext, rfl⟩ := Option.map_eq_some_iff.mp hmoment
      exact .endOfDay hdate htime (CalendarDate.next?_eq_some_iff.mp hnext)
  · rintro ⟨l, rfl, hdenotes⟩
    have hquiet : ∀ c ∈ l.date.chars, (c == 'T') = false := by
      intro c hc
      rw [beq_eq_false_iff_ne]
      rintro rfl
      exact not_mem_of_isDateChar not_isDateChar_upperT l.date.isDateChar_chars hc
    have hcut : cutAt? (· == 'T') l.chars = some (l.date.chars, l.time.chars) :=
      cutAt?_append_cons hquiet rfl
    refine Option.bind_eq_some_iff.mpr ⟨_, hcut, ?_⟩
    cases hdenotes with
    | within hdate htime =>
      refine Option.bind_eq_some_iff.mpr
        ⟨_, CalendarDate.read?_eq_some_iff.mpr ⟨l.date, rfl, hdate⟩, ?_⟩
      exact Option.bind_eq_some_iff.mpr
        ⟨_, TimeOfDay.readClock?_eq_some_iff.mpr ⟨l.time, rfl, htime⟩, rfl⟩
    | endOfDay hdate htime hnext =>
      refine Option.bind_eq_some_iff.mpr
        ⟨_, CalendarDate.read?_eq_some_iff.mpr ⟨l.date, rfl, hdate⟩, ?_⟩
      refine Option.bind_eq_some_iff.mpr
        ⟨_, TimeOfDay.readClock?_eq_some_iff.mpr ⟨l.time, rfl, htime⟩, ?_⟩
      exact Option.map_eq_some_iff.mpr ⟨_, CalendarDate.next?_eq_some_iff.mpr hnext, rfl⟩

instance : LiteralPart Moment where
  Literal := DateTimeLiteral
  chars := DateTimeLiteral.chars
  Denotes := DateTimeLiteral.Denotes
  isBodyChar := DateTimeLiteral.isBodyChar_chars
  quiet := DateTimeLiteral.announcesOffset_chars
  read?_eq_some_iff := Moment.read?_eq_some_iff

structure YearMonthLiteral where
  year : YearLiteral
  month : DigitPair

namespace YearMonthLiteral

def chars (l : YearMonthLiteral) : List Char :=
  l.year.chars ++ '-' :: l.month.chars

structure Denotes (l : YearMonthLiteral) (x : YearMonth) : Prop where
  year : x.year = l.year.value
  month : x.month = l.month.value

theorem isDateChar_chars (l : YearMonthLiteral) : ∀ c ∈ l.chars, IsDateChar c :=
  List.forall_mem_append.mpr ⟨l.year.isDateChar_chars,
    isDateChar_minus_cons fun c hc => Or.inl (l.month.isDigit_of_mem c hc)⟩

end YearMonthLiteral

theorem YearMonth.read?_eq_some_iff {x : YearMonth} :
    read? text = some x ↔ ∃ l : YearMonthLiteral, l.chars = text ∧ l.Denotes x := by
  constructor
  · intro h
    obtain ⟨⟨year, rest⟩, hyear, h⟩ := Option.bind_eq_some_iff.mp h
    obtain ⟨years, rfl, _, rfl⟩ := readYear?_eq_some_iff.mp hyear
    dsimp only at h
    split at h
    · obtain ⟨month, hmonth, h⟩ := Option.bind_eq_some_iff.mp h
      obtain ⟨months, rfl, rfl⟩ := twoDigits?_eq_some_iff.mp hmonth
      obtain ⟨hyear, hmonth⟩ := ofParts?_eq_some_iff.mp h
      exact ⟨⟨years, months⟩, rfl, hyear, hmonth⟩
    · cases h
  · rintro ⟨l, rfl, hdenotes⟩
    have hyear := readYear?_eq_some_iff.mpr ⟨l.year, rfl, endsDigits_minus l.month.chars, rfl⟩
    refine Option.bind_eq_some_iff.mpr ⟨_, hyear, ?_⟩
    refine Option.bind_eq_some_iff.mpr ⟨_, l.month.twoDigits?_chars, ?_⟩
    exact ofParts?_eq_some_iff.mpr ⟨hdenotes.year, hdenotes.month⟩

instance : LiteralPart YearMonth where
  Literal := YearMonthLiteral
  chars := YearMonthLiteral.chars
  Denotes := YearMonthLiteral.Denotes
  isBodyChar l c hc := (l.isDateChar_chars c hc).isBodyChar
  quiet l := quiet_of_isDateChar l.isDateChar_chars
  read?_eq_some_iff := YearMonth.read?_eq_some_iff

theorem CalendarYear.read?_eq_some_iff {x : CalendarYear} :
    read? text = some x ↔ ∃ l : YearLiteral, l.chars = text ∧ x.year = l.value := by
  constructor
  · intro h
    obtain ⟨⟨year, rest⟩, hyear, h⟩ := Option.bind_eq_some_iff.mp h
    obtain ⟨years, rfl, _, rfl⟩ := readYear?_eq_some_iff.mp hyear
    dsimp only at h
    split at h
    · next hempty =>
      rw [List.isEmpty_iff.mp hempty, List.append_nil]
      exact ⟨years, rfl, ofYear?_eq_some_iff.mp h⟩
    · cases h
  · rintro ⟨l, rfl, hyear⟩
    refine Option.bind_eq_some_iff.mpr
      ⟨(l.value, []), readYear?_eq_some_iff.mpr ⟨l, List.append_nil _, endsDigits_nil, rfl⟩, ?_⟩
    exact ofYear?_eq_some_iff.mpr hyear

instance : LiteralPart CalendarYear where
  Literal := YearLiteral
  chars := YearLiteral.chars
  Denotes l x := x.year = l.value
  isBodyChar l c hc := (l.isDateChar_chars c hc).isBodyChar
  quiet l := quiet_of_isDateChar l.isDateChar_chars
  read?_eq_some_iff := CalendarYear.read?_eq_some_iff

theorem MonthDay.read?_eq_some_iff {x : MonthDay} :
    read? text = some x ↔ ∃ l : MonthDayLiteral, '-' :: '-' :: l.chars = text ∧
      x.month = l.month.value ∧ x.day = l.day.value := by
  constructor
  · intro h
    unfold read? at h
    split at h
    · obtain ⟨⟨month, day⟩, hmonthDay, h⟩ := Option.bind_eq_some_iff.mp h
      obtain ⟨l, rfl, rfl, rfl⟩ := MonthDayLiteral.readMonthDay?_eq_some_iff.mp hmonthDay
      exact ⟨l, rfl, ofParts?_eq_some_iff.mp h⟩
    · cases h
  · rintro ⟨l, rfl, hfields⟩
    exact Option.bind_eq_some_iff.mpr
      ⟨_, MonthDayLiteral.readMonthDay?_eq_some_iff.mpr ⟨l, rfl, rfl, rfl⟩,
        ofParts?_eq_some_iff.mpr hfields⟩

instance : LiteralPart MonthDay where
  Literal := MonthDayLiteral
  chars l := '-' :: '-' :: l.chars
  Denotes l x := x.month = l.month.value ∧ x.day = l.day.value
  isBodyChar l c hc :=
    (isDateChar_minus_cons (isDateChar_minus_cons l.isDateChar_chars) c hc).isBodyChar
  quiet l := quiet_of_isDateChar (isDateChar_minus_cons (isDateChar_minus_cons l.isDateChar_chars))
  read?_eq_some_iff := MonthDay.read?_eq_some_iff

theorem DayOfMonth.read?_eq_some_iff {x : DayOfMonth} :
    read? text = some x ↔
      ∃ l : DigitPair, '-' :: '-' :: '-' :: l.chars = text ∧ x.day = l.value := by
  constructor
  · intro h
    unfold read? at h
    split at h
    · obtain ⟨day, hday, h⟩ := Option.bind_eq_some_iff.mp h
      obtain ⟨l, rfl, rfl⟩ := twoDigits?_eq_some_iff.mp hday
      exact ⟨l, rfl, ofDay?_eq_some_iff.mp h⟩
    · cases h
  · rintro ⟨l, rfl, hday⟩
    exact Option.bind_eq_some_iff.mpr
      ⟨_, l.twoDigits?_chars, ofDay?_eq_some_iff.mpr hday⟩

theorem Calendar.isDateChar_pair (pair : DigitPair) : ∀ c ∈ pair.chars, IsDateChar c :=
  fun c hc => Or.inl (pair.isDigit_of_mem c hc)

instance : LiteralPart DayOfMonth where
  Literal := DigitPair
  chars l := '-' :: '-' :: '-' :: l.chars
  Denotes l x := x.day = l.value
  isBodyChar l c hc := (isDateChar_minus_cons (isDateChar_minus_cons
    (isDateChar_minus_cons (isDateChar_pair l))) c hc).isBodyChar
  quiet l := quiet_of_isDateChar (isDateChar_minus_cons (isDateChar_minus_cons
    (isDateChar_minus_cons (isDateChar_pair l))))
  read?_eq_some_iff := DayOfMonth.read?_eq_some_iff

theorem MonthOfYear.read?_eq_some_iff {x : MonthOfYear} :
    read? text = some x ↔ ∃ l : DigitPair, '-' :: '-' :: l.chars = text ∧ x.month = l.value := by
  constructor
  · intro h
    unfold read? at h
    split at h
    · obtain ⟨month, hmonth, h⟩ := Option.bind_eq_some_iff.mp h
      obtain ⟨l, rfl, rfl⟩ := twoDigits?_eq_some_iff.mp hmonth
      exact ⟨l, rfl, ofMonth?_eq_some_iff.mp h⟩
    · cases h
  · rintro ⟨l, rfl, hmonth⟩
    exact Option.bind_eq_some_iff.mpr
      ⟨_, l.twoDigits?_chars, ofMonth?_eq_some_iff.mpr hmonth⟩

instance : LiteralPart MonthOfYear where
  Literal := DigitPair
  chars l := '-' :: '-' :: l.chars
  Denotes l x := x.month = l.value
  isBodyChar l c hc :=
    (isDateChar_minus_cons (isDateChar_minus_cons (isDateChar_pair l)) c hc).isBodyChar
  quiet l := quiet_of_isDateChar (isDateChar_minus_cons (isDateChar_minus_cons (isDateChar_pair l)))
  read?_eq_some_iff := MonthOfYear.read?_eq_some_iff

/-! ## Values with a zone -/

namespace Zoned

variable {α : Type} [CalendarPart α] [LiteralPart α]

/-- The text is spelled by a literal of the part and an optional zone, and the value has what they
denote. -/
def IsSpelledBy (x : Zoned α) (text : List Char) : Prop :=
  ∃ (l : LiteralPart.Literal α) (z : Option ZoneLiteral),
    LiteralPart.chars l ++ ZoneLiteral.optionalChars z = text ∧ LiteralPart.Denotes l x.value ∧
      Option.Rel ZoneLiteral.Denotes z x.zone

theorem read?_eq_some_iff {x : Zoned α} : read? text = some x ↔ x.IsSpelledBy text := by
  constructor
  · intro h
    obtain ⟨⟨body, zone⟩, hsplit, h⟩ := Option.bind_eq_some_iff.mp h
    obtain ⟨value, hvalue, h⟩ := Option.bind_eq_some_iff.mp h
    obtain rfl := Option.some.inj h
    obtain ⟨z, rfl, hzone⟩ := ZoneLiteral.exists_of_split? hsplit
    obtain ⟨l, rfl, hdenotes⟩ := LiteralPart.read?_eq_some_iff.mp hvalue
    exact ⟨l, z, rfl, hdenotes, hzone⟩
  · rintro ⟨l, z, rfl, hdenotes, hzone⟩
    have hsplit := ZoneLiteral.split?_append (LiteralPart.isBodyChar l) (LiteralPart.quiet l) hzone
    refine Option.bind_eq_some_iff.mpr ⟨_, hsplit, ?_⟩
    exact Option.bind_eq_some_iff.mpr
      ⟨_, LiteralPart.read?_eq_some_iff.mpr ⟨l, rfl, hdenotes⟩, rfl⟩

end Zoned

namespace AtomicValue

/-- The values that a text is read as by the types of the calendar. -/
structure ReadsCalendar (text : List Char) (outcome : AtomicKind → Except Error AtomicValue) :
    Prop where
  dateTime : ∀ v, outcome .dateTime = .ok v ↔
    ∃ x : DateTime, x.IsSpelledBy text ∧ v = .dateTime x
  date : ∀ v, outcome .date = .ok v ↔ ∃ x : Date, x.IsSpelledBy text ∧ v = .date x
  time : ∀ v, outcome .time = .ok v ↔ ∃ x : Time, x.IsSpelledBy text ∧ v = .time x
  gYearMonth : ∀ v, outcome .gYearMonth = .ok v ↔
    ∃ x : GYearMonth, x.IsSpelledBy text ∧ v = .gYearMonth x
  gYear : ∀ v, outcome .gYear = .ok v ↔ ∃ x : GYear, x.IsSpelledBy text ∧ v = .gYear x
  gMonthDay : ∀ v, outcome .gMonthDay = .ok v ↔
    ∃ x : GMonthDay, x.IsSpelledBy text ∧ v = .gMonthDay x
  gDay : ∀ v, outcome .gDay = .ok v ↔ ∃ x : GDay, x.IsSpelledBy text ∧ v = .gDay x
  gMonth : ∀ v, outcome .gMonth = .ok v ↔ ∃ x : GMonth, x.IsSpelledBy text ∧ v = .gMonth x

/-- The types of the calendar differ in their part and in nothing else. -/
theorem read_eq_ok_iff_isSpelledBy {α : Type} [CalendarPart α] [LiteralPart α] {kind : AtomicKind}
    {given : String} {bindings : Bindings} {make : Zoned α → AtomicValue} {v : AtomicValue}
    (h : read kind given bindings =
      orInvalid kind given (Zoned.read? (collapse given).toList) make) :
    read kind given bindings = .ok v ↔
      ∃ x : Zoned α, x.IsSpelledBy (collapse given).toList ∧ v = make x := by
  simp only [read_eq_ok_iff_of_orInvalid h, Zoned.read?_eq_some_iff]

/-- A text is a value of the calendar exactly when a literal of the type and an optional zone spell
it and the calendar has what they denote. -/
theorem calendar_reading (given : String) (bindings : Bindings) :
    ReadsCalendar (collapse given).toList fun kind => read kind given bindings where
  dateTime _ := read_eq_ok_iff_isSpelledBy rfl
  date _ := read_eq_ok_iff_isSpelledBy rfl
  time _ := read_eq_ok_iff_isSpelledBy rfl
  gYearMonth _ := read_eq_ok_iff_isSpelledBy rfl
  gYear _ := read_eq_ok_iff_isSpelledBy rfl
  gMonthDay _ := read_eq_ok_iff_isSpelledBy rfl
  gDay _ := read_eq_ok_iff_isSpelledBy rfl
  gMonth _ := read_eq_ok_iff_isSpelledBy rfl

/-- A fraction of less than a nanosecond passes for the end of a day, and the end of the last day
of a year is the start of the next. -/
theorem calendar_reading_endOfDay :
    read .time "24:00:00.0000000001" .empty = .ok (.time ⟨.midnight, none⟩) ∧
      ∃ m : Moment, m.date.year = 2000 ∧ m.date.month = 1 ∧ m.date.day = 1 ∧ m.time = .midnight ∧
        read .dateTime " 1999-12-31T24:00:00.0-00:00 " .empty = .ok (.dateTime ⟨m, some .utc⟩) := by
  let zeros : DigitPair := ⟨'0', '0', by decide, by decide⟩
  let time (fraction : DigitRun) : TimeLiteral :=
    ⟨⟨'2', '4', by decide, by decide⟩, zeros, zeros, some fraction⟩
  have hend : ∀ fraction : DigitRun, fraction.fraction * 10 ^ 9 < 1 →
      (time fraction).Denotes .midnight true := by
    intro fraction hlt
    exact .endOfDay rfl rfl rfl (Nat.floor_eq_zero.mpr hlt)
  constructor
  · have hreads := calendar_reading "24:00:00.0000000001" .empty
    let fraction : DigitRun := ⟨"0000000001".toList, by decide, by decide⟩
    have htime : (time fraction).Denotes .midnight true := hend fraction (by decide +kernel)
    exact (hreads.time _).mpr
      ⟨⟨.midnight, none⟩, ⟨time fraction, none, by decide +kernel, ⟨true, htime⟩, .none⟩, rfl⟩
  · have hreads := calendar_reading " 1999-12-31T24:00:00.0-00:00 " .empty
    let fraction : DigitRun := ⟨['0'], by decide, by decide⟩
    let date : DateLiteral := ⟨⟨false, ⟨"1999".toList, by decide, by decide⟩, by decide, by decide,
      by decide⟩, ⟨⟨'1', '2', by decide, by decide⟩, ⟨'3', '1', by decide, by decide⟩⟩⟩
    let m : Moment := ⟨⟨2000, 1, 1, by decide⟩, .midnight⟩
    have hdate : date.Denotes ⟨1999, 12, 31, by decide⟩ := ⟨by decide, by decide, by decide⟩
    have htime : (time fraction).Denotes .midnight true := hend fraction (by decide +kernel)
    have hmoment : DateTimeLiteral.Denotes ⟨date, time fraction⟩ m :=
      .endOfDay hdate htime (by decide)
    refine ⟨m, rfl, rfl, rfl, rfl, (hreads.dateTime _).mpr ⟨⟨m, some .utc⟩, ?_, rfl⟩⟩
    exact ⟨⟨date, time fraction⟩, some (.offset true zeros zeros), by decide +kernel, hmoment,
      .some (.offset (by decide) (by decide) rfl)⟩

end AtomicValue

end XPathValues

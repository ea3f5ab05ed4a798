import Mathlib.Tactic
import XPathValues.Proofs.Value.Casting
import XPathValues.Proofs.Value.IntegerReading

/-!
# Casts are sound

A cast gives a value of the type that was asked for, and whether it is allowed depends on the two
types alone. A cast to an integer type takes the whole number of the value and succeeds if and only
if the number can be stored and lies in the range of the type.
-/

namespace XPathValues

/-- The fields of the date pass the checks of the fragments that they make up. -/
structure CalendarDate.HasFragments (date : CalendarDate) : Prop where
  yearMonth : YearMonth.ofParts? date.year date.month = some date.yearMonth
  calendarYear : CalendarYear.ofYear? date.year = some date.calendarYear
  monthDay : MonthDay.ofParts? date.month date.day = some date.monthDay
  dayOfMonth : DayOfMonth.ofDay? date.day = some date.dayOfMonth
  monthOfYear : MonthOfYear.ofMonth? date.month = some date.monthOfYear

theorem CalendarDate.hasFragments (date : CalendarDate) : date.HasFragments where
  yearMonth := dif_pos date.yearMonth.valid
  calendarYear := dif_pos date.calendarYear.valid
  monthDay := dif_pos date.monthDay.valid
  dayOfMonth := dif_pos date.dayOfMonth.valid
  monthOfYear := dif_pos date.monthOfYear.valid

namespace Integer

variable {kind : IntegerKind} {j : Integer}

/-- Storing a number and giving it another type loses nothing. -/
theorem exists_relabel?_plain?_iff {n : Int} :
    (∃ i, plain? n = some i ∧ i.relabel? kind = some j) ↔ n = j.value ∧ j.kind = kind := by
  constructor
  · rintro ⟨i, hplain, hrelabel⟩
    obtain ⟨hkind, hvalue⟩ := relabel?_eq_some_iff.mp hrelabel
    exact ⟨by rw [hvalue, (plain?_eq_some_iff.mp hplain).2], hkind⟩
  · rintro ⟨rfl, hkind⟩
    exact ⟨.plain j.value j.stored, plain?_eq_some_iff.mpr ⟨rfl, rfl⟩,
      relabel?_eq_some_iff.mpr ⟨hkind, rfl⟩⟩

end Integer

namespace Numeric

def wholeNumber? : Numeric → Option Int
  | integer n => some n
  | decimal d => some d.toInt
  | float x => (x.convert : Double).truncate?
  | double x => x.truncate?

theorem integerPart_eq_ok_iff {x : Double} {target : AtomicKind} {i : Integer} :
    integerPart x target = .ok i ↔ ∃ n, x.truncate? = some n ∧ Integer.plain? n = some i := by
  unfold integerPart
  cases x.truncate? with
  | none => simp
  | some n => cases h : Integer.plain? n <;> simp [h]

theorem toInteger_eq_ok_iff {x : Numeric} {target : AtomicKind} {i : Integer} :
    x.toInteger target = .ok i ↔ ∃ n, x.wholeNumber? = some n ∧ Integer.plain? n = some i := by
  cases x with
  | integer n => cases h : Integer.plain? n <;> simp [toInteger, wholeNumber?, h]
  | decimal d =>
    have hplain := Integer.plain?_eq_some (Integer.stored_of_natAbs_le d.natAbs_toInt_le)
    simp [toInteger, wholeNumber?, hplain]
  | float x | double x => exact integerPart_eq_ok_iff

end Numeric

namespace AtomicValue

variable {v w : AtomicValue} {target : AtomicKind} {bindings : Bindings} {e : Error}

theorem eq_integer_of_asInteger? {n : Int} (h : v.asInteger? = some n) :
    ∃ i, v = integer i ∧ i.value = n := by
  cases v <;> cases h
  exact ⟨_, rfl, rfl⟩

/-- The whole number that a value stands for when an integer is wanted. -/
def wholeNumber? : AtomicValue → Option Int
  | untypedAtomic s | string s => readWhole? (Text.collapse s).toList
  | v => v.asCastNumber?.bind Numeric.wholeNumber?

theorem castNumber_integer_eq_ok_iff {x : Numeric} {source : AtomicKind} {k : IntegerKind}
    {j : Integer} :
    castNumber x source (.integer k) = .ok (integer j) ↔
      x.wholeNumber? = some j.value ∧ j.kind = k := by
  rw [castNumber, map_integer_eq_ok_iff]
  constructor
  · intro h
    obtain ⟨i, hi, hj⟩ := exists_of_bind_eq_ok h
    obtain ⟨n, hn, hplain⟩ := Numeric.toInteger_eq_ok_iff.mp hi
    obtain ⟨hkind, hvalue⟩ := Integer.ofStored_eq_ok_iff.mp hj
    rw [hn, hvalue, (Integer.plain?_eq_some_iff.mp hplain).2]
    exact ⟨rfl, hkind⟩
  · rintro ⟨hn, hkind⟩
    obtain ⟨i, hplain, hrelabel⟩ := Integer.exists_relabel?_plain?_iff.mpr ⟨rfl, hkind⟩
    rw [Numeric.toInteger_eq_ok_iff.mpr ⟨_, hn, hplain⟩]
    exact Integer.ofStored_eq_ok_iff.mpr (Integer.relabel?_eq_some_iff.mp hrelabel)

theorem wholeNumber?_of_asCastNumber? {x : Numeric} (h : v.asCastNumber? = some x) :
    v.wholeNumber? = x.wholeNumber? := by
  cases v <;> cases h <;> rfl

theorem cast_integer_of_numeric {k : IntegerKind} {j : Integer}
    (hrule : castRule v.kind (.integer k) = .numeric) :
    v.cast (.integer k) bindings = .ok (integer j) ↔
      v.wholeNumber? = some j.value ∧ j.kind = k := by
  obtain ⟨x, hx, hcast⟩ := cast_of_numeric bindings hrule
  rw [hcast, wholeNumber?_of_asCastNumber? hx]
  exact castNumber_integer_eq_ok_iff

/-- The cast to an integer type in one: the number must be there, be stored and be in the range. -/
theorem cast_integer_eq_ok_iff {k : IntegerKind} {j : Integer} :
    v.cast (.integer k) bindings = .ok (integer j) ↔
      v.wholeNumber? = some j.value ∧ j.kind = k := by
  cases v with
  | untypedAtomic s | string s =>
    rw [cast_of_parse rfl, read_integer, map_integer_eq_ok_iff, Integer.read_eq_ok_iff]
    exact Iff.rfl
  | integer i =>
    have hrule : castRule (kind (integer i)) (.integer k) = .identity := by
      simp [castRule_eq, kind, AtomicKind.isInteger]
    have hvalue : (integer i).wholeNumber? = some j.value ↔ j.value = i.value := by
      rw [eq_comm (a := j.value)]
      exact Option.some_inj
    rw [cast_of_identity hrule, restrict_integer, hvalue, and_comm]
    exact map_integer_eq_ok_iff.trans Integer.ofStored_eq_ok_iff
  | boolean | decimal | float | double =>
    exact cast_integer_of_numeric rfl
  | _ =>
    rw [cast_of_forbidden rfl]
    simp [wholeNumber?, asCastNumber?, asNumeric?]

/-- Where the table selects a conversion, the conversion has a row for the value and the target: it
finds in the value what it converts, and never answers that the cast is not allowed. The rows of the
conversion of numbers are no more than the table selects. -/
structure ConversionsAgree (v : AtomicValue) (target : AtomicKind) : Prop where
  numeric : castRule v.kind target = .numeric ↔
    ∀ e, v.convertNumeric target = .error e → e.category ≠ .illegalCast
  duration : castRule v.kind target = .duration →
    ∃ d w, v.asDuration? = some d ∧ castDuration d v.kind target = .ok w
  project : castRule v.kind target = .project →
    ∃ x w, v.asDateTime? = some x ∧ x.value.date.HasFragments ∧ project x v.kind target = .ok w

theorem conversionsAgree (v : AtomicValue) (target : AtomicKind) : v.ConversionsAgree target where
  numeric := convertNumeric_iff
  duration hrule := by
    obtain ⟨d, hd, _⟩ := cast_of_duration .empty hrule
    obtain ⟨w, hw⟩ := exists_castDuration (AtomicKind.isDuration_of_castRule hrule).2 d v.kind
    exact ⟨d, w, hd, hw⟩
  project hrule := by
    obtain ⟨x, hx, _⟩ := cast_of_project .empty hrule
    obtain ⟨w, hw⟩ := exists_project (AtomicKind.projectsTo_of_castRule hrule) x
    exact ⟨x, w, hx, x.value.date.hasFragments, hw⟩

theorem illegalCast_iff :
    (∃ e, v.cast target bindings = .error e ∧ e.category = .illegalCast) ↔
      isCastable v.kind target = false := by
  rw [isCastable, bne_eq_false_iff_eq]
  constructor
  · rintro ⟨e, he, hcategory⟩
    by_contra hrule
    exact (isOfValue_of_cast hrule he).category_ne rfl hcategory
  · intro hrule
    exact ⟨_, cast_of_forbidden hrule, rfl⟩

/-- A cast gives a value of the type that was asked for. An integer type takes the whole number of
the value if and only if it is in its range. Only the two types decide whether a cast is allowed, and
the conversions agree with the table that says so. -/
theorem cast_sound (v : AtomicValue) (target : AtomicKind) (bindings : Bindings) :
    (∀ w, v.cast target bindings = .ok w → w.kind = target) ∧
      (∀ k n, target = .integer k →
        ((∃ w, v.cast target bindings = .ok w ∧ w.asInteger? = some n) ↔
          v.wholeNumber? = some n ∧ Integer.Stored n ∧ k.admits n = true)) ∧
      ((∃ e, v.cast target bindings = .error e ∧ e.category = .illegalCast) ↔
        isCastable v.kind target = false) ∧
      v.ConversionsAgree target := by
  refine ⟨fun w => kind_cast, ?_, illegalCast_iff, conversionsAgree v target⟩
  rintro k n rfl
  constructor
  · rintro ⟨w, hw, hn⟩
    obtain ⟨i, rfl, rfl⟩ := eq_integer_of_asInteger? hn
    obtain ⟨hvalue, rfl⟩ := cast_integer_eq_ok_iff.mp hw
    exact ⟨hvalue, i.stored, i.admitted⟩
  · rintro ⟨hvalue, hstored, hadmits⟩
    exact ⟨integer ⟨k, n, hstored, hadmits⟩, cast_integer_eq_ok_iff.mpr ⟨hvalue, rfl⟩, rfl⟩

/-- Cutting off the fraction brings a decimal back into the range of a byte; one more does not. -/
theorem cast_sound_byte :
    (∃ w, (decimal ⟨true, 1289, 1, by decide, by decide⟩).cast (.integer .byte) .empty = .ok w ∧
        w.kind = .integer .byte ∧ w.asInteger? = some (-128)) ∧
      ¬ ∃ w, (decimal ⟨true, 1290, 1, by decide, by decide⟩).cast (.integer .byte) .empty = .ok w ∧
        w.asInteger? = some (-129) := by
  have hin := cast_sound (decimal ⟨true, 1289, 1, by decide, by decide⟩) (.integer .byte) .empty
  have hout := cast_sound (decimal ⟨true, 1290, 1, by decide, by decide⟩) (.integer .byte) .empty
  constructor
  · obtain ⟨w, hw, hn⟩ := (hin.2.1 .byte (-128) rfl).mpr (by decide +kernel)
    exact ⟨w, hw, hin.1 w hw, hn⟩
  · intro hcast
    exact absurd ((hout.2.1 .byte (-129) rfl).mp hcast).2.2 (by decide)

end AtomicValue

end XPathValues

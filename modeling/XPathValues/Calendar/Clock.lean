/-!
# The time of day

A time of day is a count of nanoseconds since midnight. There are no leap seconds, so every day has
the same length and arithmetic on the clock is arithmetic modulo that length. A library for
calendars may also know readings within a leap second, with a second or more of nanoseconds beyond
the second 59. No text and no operation gives such a reading, and it is no time of day here:
whatever is said of all times and moments leaves these readings out.
-/

namespace XPathValues

namespace TimeOfDay

def second : Nat := 1000000000

/-- Nanoseconds in a day. -/
def dayLength : Nat := 86400000000000

end TimeOfDay

structure TimeOfDay where
  nanos : Nat
  bounded : nanos < TimeOfDay.dayLength
deriving DecidableEq

namespace TimeOfDay

def midnight : TimeOfDay := ⟨0, by decide⟩

def hours (time : TimeOfDay) : Nat := time.nanos / 3600000000000

def minutes (time : TimeOfDay) : Nat := time.nanos / 60000000000 % 60

def seconds (time : TimeOfDay) : Nat := time.nanos / 1000000000 % 60

/-- Nanoseconds since the last whole second. -/
def fraction (time : TimeOfDay) : Nat := time.nanos % 1000000000

def ofParts? (hours minutes seconds fraction : Nat) : Option TimeOfDay :=
  if h : hours < 24 ∧ minutes < 60 ∧ seconds < 60 ∧ fraction < 1000000000 then
    some ⟨hours * 3600000000000 + minutes * 60000000000 + seconds * 1000000000 + fraction, by
      unfold dayLength; omega⟩
  else none

/-- Turn the clock on, or back, by so many nanoseconds. -/
def shift (time : TimeOfDay) (nanos : Int) : TimeOfDay :=
  ⟨((time.nanos + nanos) % (dayLength : Int)).toNat, by
    have h := Int.emod_nonneg ((time.nanos : Int) + nanos) (show (dayLength : Int) ≠ 0 by decide)
    have h' := Int.emod_lt_of_pos ((time.nanos : Int) + nanos)
      (show (0 : Int) < dayLength by decide)
    omega⟩

theorem hours_lt (time : TimeOfDay) : time.hours < 24 := by
  have h := time.bounded
  unfold dayLength at h
  unfold hours
  omega

theorem minutes_lt (time : TimeOfDay) : time.minutes < 60 := by
  unfold minutes
  omega

theorem seconds_lt (time : TimeOfDay) : time.seconds < 60 := by
  unfold seconds
  omega

theorem fraction_lt (time : TimeOfDay) : time.fraction < 1000000000 := by
  unfold fraction
  omega

theorem ofParts?_fields (time : TimeOfDay) :
    ofParts? time.hours time.minutes time.seconds time.fraction = some time := by
  unfold ofParts?
  rw [dif_pos ⟨time.hours_lt, time.minutes_lt, time.seconds_lt, time.fraction_lt⟩]
  congr 1
  obtain ⟨nanos, bounded⟩ := time
  simp only [hours, minutes, seconds, fraction, TimeOfDay.mk.injEq]
  omega

theorem ofParts?_eq_some_iff {hours minutes seconds fraction : Nat} {time : TimeOfDay} :
    ofParts? hours minutes seconds fraction = some time ↔ time.hours = hours ∧
      time.minutes = minutes ∧ time.seconds = seconds ∧ time.fraction = fraction := by
  constructor
  · intro h
    unfold ofParts? at h
    split at h
    · next hbounds =>
      obtain rfl := Option.some.inj h
      unfold TimeOfDay.hours TimeOfDay.minutes TimeOfDay.seconds TimeOfDay.fraction
      dsimp only
      omega
    · cases h
  · rintro ⟨rfl, rfl, rfl, rfl⟩
    exact time.ofParts?_fields

@[simp] theorem nanos_shift (time : TimeOfDay) (nanos : Int) :
    ((time.shift nanos).nanos : Int) = (time.nanos + nanos) % dayLength :=
  Int.toNat_of_nonneg (Int.emod_nonneg _ (by decide))

theorem eq_of_nanos_eq {a b : TimeOfDay} (h : (a.nanos : Int) = b.nanos) : a = b := by
  obtain ⟨n, _⟩ := a
  obtain ⟨m, _⟩ := b
  obtain rfl : n = m := by exact_mod_cast h
  rfl

theorem shift_shift (time : TimeOfDay) (a b : Int) :
    (time.shift a).shift b = time.shift (a + b) := by
  apply eq_of_nanos_eq
  rw [nanos_shift, nanos_shift, nanos_shift, Int.emod_add_emod, Int.add_assoc]

end TimeOfDay

end XPathValues

import Mathlib.Tactic
import XPathValues.Proofs.Calendar.ZoneLiteral

/-!
# The zone at the end of a text

A zone is written as a literal that denotes it, up to the seconds that an offset is written without.
So the zone that is cut off a written value is the one that was written, and it can be told from the
text.
-/

namespace XPathValues.Timezone

open Text

variable {zone other : Timezone} {body text : List Char} {c : Char}

/-- The zone as far as it is written: an offset loses the seconds beyond whole minutes. -/
def wholeMinutes (zone : Timezone) : Timezone :=
  ⟨(if zone.seconds < 0 then -1 else 1) * (zone.seconds.natAbs / 60) * 60, by
    have hbounded := zone.bounded
    split <;> omega⟩

theorem wholeMinutes_of_mod (h : zone.seconds % 60 = 0) : zone.wholeMinutes = zone := by
  obtain ⟨seconds, bounded⟩ := zone
  simp only [wholeMinutes, mk.injEq] at h ⊢
  split <;> omega

/-- The offsets that are written with at most fourteen hours. -/
def WithinFourteenHours (zone : Timezone) : Prop :=
  -50400 ≤ zone.seconds ∧ zone.seconds ≤ 50400

theorem Lexical.withinFourteenHours (h : zone.Lexical) : zone.WithinFourteenHours := h.2

theorem Lexical.wholeMinutes_eq (h : zone.Lexical) : zone.wholeMinutes = zone :=
  wholeMinutes_of_mod h.1

theorem eq_utc (h : zone.seconds = 0) : zone = utc := by
  obtain ⟨seconds, _⟩ := zone
  obtain rfl : seconds = 0 := h
  rfl

/-! ## The literal of a zone -/

theorem exists_offset (h : zone.seconds ≠ 0) :
    ∃ hours minutes : DigitPair,
      (ZoneLiteral.offset (decide (zone.seconds < 0)) hours minutes).chars = zone.toChars ∧
        hours.value = zone.seconds.natAbs / 60 / 60 ∧
        minutes.value = zone.seconds.natAbs / 60 % 60 := by
  have hbounded := zone.bounded
  obtain ⟨hours, hhourChars, hhours⟩ := DigitPair.exists_padded
    (show zone.seconds.natAbs / 60 / 60 < 100 by omega)
  obtain ⟨minutes, hminuteChars, hminutes⟩ := DigitPair.exists_padded
    (show zone.seconds.natAbs / 60 % 60 < 100 by omega)
  refine ⟨hours, minutes, ?_, hhours, hminutes⟩
  rw [toChars, if_neg h, ZoneLiteral.chars, hhourChars, hminuteChars]
  simp only [decide_eq_true_eq]
  rfl

theorem exists_literal (zone : Timezone) :
    ∃ z : ZoneLiteral, z.chars = zone.toChars ∧
      (zone.WithinFourteenHours → z.Denotes zone.wholeMinutes) := by
  by_cases hzero : zone.seconds = 0
  · obtain rfl := eq_utc hzero
    exact ⟨.utc, rfl, fun _ => .utc⟩
  · obtain ⟨hours, minutes, hchars, hhours, hminutes⟩ := exists_offset hzero
    refine ⟨_, hchars, fun hrange => ?_⟩
    have hbounded := zone.bounded
    obtain ⟨hlow, hhigh⟩ := hrange
    refine .offset (by omega) (by omega) ?_
    unfold wholeMinutes withSign
    rw [hhours, hminutes]
    by_cases hneg : zone.seconds < 0
    · simp only [hneg, decide_true, if_true]
      omega
    · simp only [hneg, decide_false, Bool.false_eq_true, if_false]
      omega

theorem exists_optionalLiteral (zone : Option Timezone) :
    ∃ z : Option ZoneLiteral, ZoneLiteral.optionalChars z = optionalChars zone ∧
      ((∀ w, zone = some w → w.WithinFourteenHours) →
        Option.Rel ZoneLiteral.Denotes z (zone.map wholeMinutes)) := by
  cases zone with
  | none => exact ⟨none, rfl, fun _ => .none⟩
  | some zone =>
    obtain ⟨z, hchars, hdenotes⟩ := exists_literal zone
    exact ⟨some z, hchars, fun hrange => .some (hdenotes (hrange zone rfl))⟩

theorem mem_append_optionalChars {zone : Option Timezone} (hbody : ∀ c ∈ body, IsBodyChar c)
    (h : c ∈ body ++ optionalChars zone) : IsBodyChar c ∨ c = '+' ∨ c = 'Z' := by
  obtain ⟨z, hchars, _⟩ := exists_optionalLiteral zone
  rw [← hchars] at h
  exact ZoneLiteral.mem_append_optionalChars hbody h

theorem split?_append {zone : Option Timezone} (hbody : ∀ c ∈ body, IsBodyChar c)
    (hquiet : announcesOffset body = false)
    (hzone : ∀ z, zone = some z → z.WithinFourteenHours) :
    split? (body ++ optionalChars zone) = some (body, zone.map wholeMinutes) := by
  obtain ⟨z, hchars, hdenotes⟩ := exists_optionalLiteral zone
  rw [← hchars]
  exact ZoneLiteral.split?_append hbody hquiet (hdenotes hzone)

theorem toChars_ne_nil (zone : Timezone) : zone.toChars ≠ [] := by
  obtain ⟨z, hchars, _⟩ := exists_literal zone
  rw [← hchars]
  cases z <;> simp [ZoneLiteral.chars]

theorem toChars_inj (hzone : zone.seconds % 60 = 0) (hother : other.seconds % 60 = 0)
    (h : zone.toChars = other.toChars) : zone = other := by
  by_cases hz : zone.seconds = 0
  · obtain rfl := eq_utc hz
    by_cases ho : other.seconds = 0
    · exact (eq_utc ho).symm
    · obtain ⟨hours, minutes, hchars, _⟩ := exists_offset ho
      rw [← hchars] at h
      cases ZoneLiteral.chars_inj (z := .utc) h
  · obtain ⟨hours, minutes, hchars, hhours, hminutes⟩ := exists_offset hz
    by_cases ho : other.seconds = 0
    · obtain rfl := eq_utc ho
      rw [← hchars] at h
      cases ZoneLiteral.chars_inj (w := .utc) h
    · obtain ⟨hours', minutes', hchars', hhours', hminutes'⟩ := exists_offset ho
      rw [← hchars, ← hchars'] at h
      obtain ⟨hbehind, rfl, rfl⟩ := ZoneLiteral.offset.inj (ZoneLiteral.chars_inj h)
      have hneg : zone.seconds < 0 ↔ other.seconds < 0 := decide_eq_decide.mp hbehind
      have hseconds : zone.seconds = other.seconds := by omega
      obtain ⟨_, _⟩ := zone
      obtain ⟨_, _⟩ := other
      simpa using hseconds

/-- A text is put together from a body and a zone of whole minutes in one way only. -/
theorem append_optionalChars_inj {a b : List Char} {x y : Option Timezone}
    (ha : ∀ c ∈ a, IsBodyChar c) (hb : ∀ c ∈ b, IsBodyChar c) (hqa : announcesOffset a = false)
    (hqb : announcesOffset b = false) (hx : ∀ z, x = some z → z.seconds % 60 = 0)
    (hy : ∀ z, y = some z → z.seconds % 60 = 0) (h : a ++ optionalChars x = b ++ optionalChars y) :
    a = b ∧ x = y := by
  obtain ⟨z, hzchars, _⟩ := exists_optionalLiteral x
  obtain ⟨w, hwchars, _⟩ := exists_optionalLiteral y
  rw [← hzchars, ← hwchars] at h
  obtain ⟨hbody, hchars⟩ := ZoneLiteral.append_optionalChars_inj ha hb hqa hqb h
  rw [hzchars, hwchars] at hchars
  refine ⟨hbody, ?_⟩
  match x, y with
  | none, none => rfl
  | none, some zone => exact absurd hchars.symm zone.toChars_ne_nil
  | some zone, none => exact absurd hchars zone.toChars_ne_nil
  | some zone, some other => exact congrArg some (toChars_inj (hx zone rfl) (hy other rfl) hchars)

end XPathValues.Timezone

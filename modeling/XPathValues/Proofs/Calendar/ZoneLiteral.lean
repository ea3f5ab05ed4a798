import Mathlib.Tactic
import XPathValues.Calendar.Timezone
import XPathValues.Proofs.Text.Literal

/-!
# Zone literals

The reader finds an offset by the characters three and six places before the end of a text. A body
of calendar characters that does not end like an offset itself is told apart from the zone behind
it, so that the zone is the literal that stands there.
-/

namespace XPathValues

open Text

namespace Timezone

variable {body text : List Char} {c : Char}

/-- The characters that calendar values are written with in front of their zone. -/
def IsBodyChar (c : Char) : Prop :=
  c.isDigit = true ∨ c = '-' ∨ c = ':' ∨ c = '.' ∨ c = 'T'

theorem IsBodyChar.toNat_lt (h : IsBodyChar c) : c.toNat < 0x80 := by
  rcases h with h | rfl | rfl | rfl | rfl
  · have hle : c ≤ '9' := by
      simp only [Char.isDigit, Bool.and_eq_true, decide_eq_true_eq] at h
      exact h.2
    exact lt_of_le_of_lt (Char.le_def.mp hle) (by decide)
  all_goals decide

theorem IsBodyChar.ne_upperZ (h : IsBodyChar c) : c ≠ 'Z' := by
  rintro rfl
  exact absurd h (by unfold IsBodyChar; decide)

theorem colon_of_announcesOffset (h : announcesOffset text = true) :
    text.reverse[2]? = some ':' := by
  unfold announcesOffset at h
  split at h
  · next heq =>
    rw [Bool.and_eq_true, beq_iff_eq] at h
    rw [heq, h.1]
    rfl
  · cases h

theorem announcesOffset_of_no_colon (h : ':' ∉ text) : announcesOffset text = false := by
  by_contra hannounced
  have hcolon := colon_of_announcesOffset (by simpa using hannounced)
  exact h (List.mem_reverse.mp (List.mem_of_getElem? hcolon))

theorem announcesOffset_append {tail : List Char} (hlength : 3 ≤ tail.length) (h : ':' ∉ tail)
    (before : List Char) : announcesOffset (before ++ tail) = false := by
  by_contra hannounced
  have hcolon := colon_of_announcesOffset (by simpa using hannounced)
  rw [List.reverse_append, List.getElem?_append_left (by rw [List.length_reverse]; omega)] at hcolon
  exact h (List.mem_reverse.mp (List.mem_of_getElem? hcolon))

theorem getLast?_ne_upperZ (hbody : ∀ c ∈ body, IsBodyChar c) : body.getLast? ≠ some 'Z' := by
  intro h
  exact (hbody 'Z' (List.mem_of_getLast? h)).ne_upperZ rfl

end Timezone

open Timezone

/-- `Z`, or a sign with hours and minutes. -/
inductive ZoneLiteral where
  | utc
  | offset (behind : Bool) (hours minutes : DigitPair)

namespace ZoneLiteral

def chars : ZoneLiteral → List Char
  | utc => ['Z']
  | offset behind hours minutes =>
    (if behind then '-' else '+') :: (hours.chars ++ ':' :: minutes.chars)

/-- An offset has less than sixty minutes and leads at most fourteen hours away from UTC. -/
inductive Denotes : ZoneLiteral → Timezone → Prop
  | utc : Denotes utc .utc
  | offset {behind : Bool} {hours minutes : DigitPair} {zone : Timezone}
    (minutes_le : minutes.value ≤ 59) (range : 60 * hours.value + minutes.value ≤ 14 * 60)
    (seconds : zone.seconds = withSign behind (3600 * hours.value + 60 * minutes.value : ℤ)) :
    Denotes (offset behind hours minutes) zone

def optionalChars (zone : Option ZoneLiteral) : List Char :=
  (zone.map chars).getD []

variable {body text : List Char} {z : Option ZoneLiteral}

theorem ite_signChar (behind : Bool) (offset : ℤ) :
    (if (if behind then '-' else '+') = '-' then -offset else offset) = withSign behind offset := by
  cases behind <;> rfl

theorem ofMinutes?_withSign_eq_some_iff {behind : Bool} {hours minutes : ℕ} {zone : Timezone} :
    ofMinutes? (withSign behind (hours * 60 + minutes : ℤ)) = some zone ↔
      60 * hours + minutes ≤ 14 * 60 ∧
        zone.seconds = withSign behind (3600 * hours + 60 * minutes : ℤ) := by
  rw [ofMinutes?_eq_some_iff]
  unfold Lexical withSign
  constructor
  · rintro ⟨hseconds, _, hlow, hhigh⟩
    cases behind <;> simp only [Bool.false_eq_true, if_true, if_false] at * <;> omega
  · rintro ⟨hrange, hseconds⟩
    cases behind <;> simp only [Bool.false_eq_true, if_true, if_false] at * <;> omega

theorem readOffset?_eq_some_iff {zone : Timezone} :
    readOffset? text = some zone ↔ ∃ behind hours minutes,
      (offset behind hours minutes).chars = text ∧ Denotes (offset behind hours minutes) zone := by
  constructor
  · intro h
    unfold readOffset? at h
    split at h
    · next sign _ _ _ _ _ =>
      split at h
      · next hsign =>
        obtain ⟨hsign, rfl⟩ := hsign
        obtain ⟨hours, hhours, h⟩ := Option.bind_eq_some_iff.mp h
        obtain ⟨minutes, hminutes, h⟩ := Option.bind_eq_some_iff.mp h
        obtain ⟨hourPair, hhourChars, rfl⟩ := twoDigits?_eq_some_iff.mp hhours
        obtain ⟨minutePair, hminuteChars, rfl⟩ := twoDigits?_eq_some_iff.mp hminutes
        split at h
        · next hle =>
          have hbehind : ∃ behind : Bool, sign = (if behind then '-' else '+') := by
            rcases hsign with rfl | rfl
            · exact ⟨false, rfl⟩
            · exact ⟨true, rfl⟩
          obtain ⟨behind, rfl⟩ := hbehind
          simp only [ite_signChar] at h
          obtain ⟨hrange, hseconds⟩ := ofMinutes?_withSign_eq_some_iff.mp h
          refine ⟨behind, hourPair, minutePair, ?_, .offset hle hrange hseconds⟩
          rw [chars, hhourChars, hminuteChars]
          rfl
        · cases h
      · cases h
    · cases h
  · rintro ⟨behind, hours, minutes, rfl, hdenotes⟩
    have hhours := hours.twoDigits?_chars
    have hminutes := minutes.twoDigits?_chars
    unfold DigitPair.chars at hhours hminutes
    cases hdenotes with
    | offset hle hrange hseconds =>
      have hsign : (if behind then '-' else '+') = '+' ∨ (if behind then '-' else '+') = '-' := by
        cases behind <;> decide
      simp only [chars, DigitPair.chars, List.cons_append, List.nil_append, readOffset?, hsign,
        and_self, if_true, hhours, hminutes, Option.bind_eq_bind, Option.bind_some, if_pos hle,
        ite_signChar]
      exact ofMinutes?_withSign_eq_some_iff.mpr ⟨hrange, hseconds⟩

theorem exists_of_split? {zone : Option Timezone}
    (h : split? text = some (body, zone)) :
    ∃ z : Option ZoneLiteral, body ++ optionalChars z = text ∧ Option.Rel Denotes z zone := by
  unfold split? at h
  split at h
  · cases h
  · split at h
    · next hlast =>
      obtain ⟨rfl, rfl⟩ := Prod.mk.inj (Option.some.inj h)
      exact ⟨some utc, List.dropLast_append_getLast? 'Z' hlast, .some .utc⟩
    · split at h
      · obtain ⟨offsetZone, hoffset, heq⟩ := Option.map_eq_some_iff.mp h
        obtain ⟨rfl, rfl⟩ := Prod.mk.inj heq
        obtain ⟨behind, hours, minutes, hchars, hdenotes⟩ := readOffset?_eq_some_iff.mp hoffset
        refine ⟨some (offset behind hours minutes), ?_, .some hdenotes⟩
        rw [show optionalChars (some (offset behind hours minutes)) = _ from hchars,
          List.take_append_drop]
      · obtain ⟨rfl, rfl⟩ := Prod.mk.inj (Option.some.inj h)
        exact ⟨none, List.append_nil _, .none⟩

theorem mem_chars {z : ZoneLiteral} {c : Char} (h : c ∈ z.chars) :
    IsBodyChar c ∨ c = '+' ∨ c = 'Z' := by
  cases z with
  | utc => exact Or.inr (Or.inr (List.mem_singleton.mp h))
  | offset behind hours minutes =>
    rcases List.mem_cons.mp h with rfl | h
    · split
      · exact Or.inl (Or.inr (Or.inl rfl))
      · exact Or.inr (Or.inl rfl)
    · rcases List.mem_append.mp h with h | h
      · exact Or.inl (Or.inl (hours.isDigit_of_mem c h))
      · rcases List.mem_cons.mp h with rfl | h
        · exact Or.inl (Or.inr (Or.inr (Or.inl rfl)))
        · exact Or.inl (Or.inl (minutes.isDigit_of_mem c h))

theorem mem_append_optionalChars {c : Char} (hbody : ∀ c ∈ body, IsBodyChar c)
    (h : c ∈ body ++ optionalChars z) : IsBodyChar c ∨ c = '+' ∨ c = 'Z' := by
  rcases List.mem_append.mp h with h | h
  · exact Or.inl (hbody c h)
  · cases z with
    | none => cases h
    | some z => exact mem_chars h

theorem isAscii_append_optionalChars (hbody : ∀ c ∈ body, IsBodyChar c) (z : Option ZoneLiteral) :
    ((body ++ optionalChars z).any fun c => 0x80 ≤ c.toNat) = false := by
  rw [List.any_eq_false]
  intro c hc
  rw [decide_eq_true_eq, not_le]
  rcases mem_append_optionalChars hbody hc with h | rfl | rfl
  · exact h.toNat_lt
  · decide
  · decide

@[simp] theorem optionalChars_none : optionalChars none = [] := rfl

@[simp] theorem optionalChars_some (z : ZoneLiteral) : optionalChars (some z) = z.chars := rfl

/-! ## Where the zone starts -/

variable {behind : Bool} {hours minutes : DigitPair}

theorem length_chars_offset : (offset behind hours minutes).chars.length = 6 := rfl

theorem getLast?_append_offset (body : List Char) :
    (body ++ (offset behind hours minutes).chars).getLast? ≠ some 'Z' := by
  have hne : minutes.ones ≠ 'Z' := by
    intro heq
    have hdigit := minutes.isDigit_ones
    rw [heq] at hdigit
    cases hdigit
  simpa [chars, DigitPair.chars] using hne

theorem announcesOffset_append_offset (body : List Char) :
    announcesOffset (body ++ (offset behind hours minutes).chars) = true := by
  cases behind <;> simp [announcesOffset, chars, DigitPair.chars]

theorem split?_append {zone : Option Timezone} (hbody : ∀ c ∈ body, IsBodyChar c)
    (hquiet : announcesOffset body = false) (h : Option.Rel Denotes z zone) :
    split? (body ++ optionalChars z) = some (body, zone) := by
  rw [split?, isAscii_append_optionalChars hbody, if_neg (by decide)]
  cases h with
  | none =>
    rw [optionalChars_none, List.append_nil, if_neg (getLast?_ne_upperZ hbody), hquiet]
    rfl
  | @some z zone hdenotes =>
    rw [optionalChars_some]
    cases z with
    | utc =>
      cases hdenotes
      rw [chars, if_pos (by simp), List.dropLast_concat]
    | offset behind hours minutes =>
      have hlength : (body ++ (offset behind hours minutes).chars).length - 6 = body.length := by
        rw [List.length_append, length_chars_offset, Nat.add_sub_cancel]
      have hread := readOffset?_eq_some_iff.mpr ⟨behind, hours, minutes, rfl, hdenotes⟩
      rw [if_neg (getLast?_append_offset body), if_pos (announcesOffset_append_offset body),
        hlength, List.drop_left, List.take_left, hread]
      rfl

/-- The number of characters at the end of a text that belong to a zone. -/
def zoneLength (text : List Char) : ℕ :=
  if text.getLast? = some 'Z' then 1 else if announcesOffset text = true then 6 else 0

theorem zoneLength_append (hbody : ∀ c ∈ body, IsBodyChar c)
    (hquiet : announcesOffset body = false) (z : Option ZoneLiteral) :
    zoneLength (body ++ optionalChars z) = (optionalChars z).length := by
  unfold zoneLength
  cases z with
  | none =>
    rw [optionalChars_none, List.append_nil, if_neg (getLast?_ne_upperZ hbody), hquiet]
    rfl
  | some z =>
    rw [optionalChars_some]
    cases z with
    | utc => rw [chars, if_pos (by simp), List.length_singleton]
    | offset behind hours minutes =>
      rw [if_neg (getLast?_append_offset body), if_pos (announcesOffset_append_offset body),
        length_chars_offset]

theorem append_optionalChars_inj {a b : List Char} {z w : Option ZoneLiteral}
    (ha : ∀ c ∈ a, IsBodyChar c) (hb : ∀ c ∈ b, IsBodyChar c) (hqa : announcesOffset a = false)
    (hqb : announcesOffset b = false) (h : a ++ optionalChars z = b ++ optionalChars w) :
    a = b ∧ optionalChars z = optionalChars w := by
  have hlength : (optionalChars z).length = (optionalChars w).length := by
    rw [← zoneLength_append ha hqa z, h, zoneLength_append hb hqb w]
  exact List.append_inj' h hlength

theorem chars_inj {z w : ZoneLiteral} (h : z.chars = w.chars) : z = w := by
  have hlength := congrArg List.length h
  cases z with
  | utc =>
    cases w with
    | utc => rfl
    | offset _ _ _ => cases hlength
  | offset behind hours minutes =>
    cases w with
    | utc => cases hlength
    | offset behind' hours' minutes' =>
      obtain ⟨hsign, hdigits⟩ := List.cons.inj h
      obtain ⟨hhours, hminutes⟩ := List.append_inj hdigits rfl
      obtain rfl := DigitPair.chars_inj hhours
      obtain rfl := DigitPair.chars_inj (List.cons.inj hminutes).2
      have hbehind : behind = behind' := by
        cases behind <;> cases behind' <;> first | rfl | exact absurd hsign (by decide)
      rw [hbehind]

end ZoneLiteral

end XPathValues

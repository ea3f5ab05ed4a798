import Mathlib.Tactic
import XPathValues.Proofs.Calendar.RoundTrip
import XPathValues.Proofs.Duration.Canonical

/-!
# One text for each value

Two values of one type are the same exactly when they have one text. This holds of every type but
the binary floating point types, whose not-a-number is not the same as itself, and the qualified
names, whose text leaves the namespace out. Nor does it hold of clocks that read within a leap second,
which are no values here.
-/

namespace XPathValues

open Text

namespace Integer

variable {a b : Integer}

theorem toList_toText (i : Integer) :
    i.toText.toList = if 0 ≤ i.value then Nat.toDigits 10 i.value.natAbs
      else '-' :: Nat.toDigits 10 i.value.natAbs := by
  rw [toText, Int.toString_eq_repr, Int.repr_eq_if]
  split
  · next h =>
    have habs : i.value.toNat = i.value.natAbs := by omega
    rw [Nat.toList_repr, habs]
  · next h =>
    have habs : (-i.value).toNat = i.value.natAbs := by omega
    rw [String.toList_append, Nat.toList_repr, habs]
    rfl

theorem readWhole?_toText (i : Integer) : readWhole? i.toText.toList = some i.value := by
  have hread := wholeNumber?_toDigits i.value.natAbs
  rw [toList_toText]
  split
  · next h =>
    have habs : (i.value.natAbs : ℤ) = i.value := by omega
    obtain ⟨c, rest, hcons⟩ := List.exists_cons_of_ne_nil
      (Nat.toDigits_ne_nil (b := 10) (n := i.value.natAbs))
    have hdigit : c.isDigit = true :=
      allDigits_iff.mp (allDigits_toDigits i.value.natAbs) c (by simp [hcons])
    rw [hcons] at hread ⊢
    rw [readWhole?, splitSign_of_isDigit hdigit]
    simp only [hread, Bool.false_eq_true, if_false]
    exact congrArg some habs
  · next h =>
    have habs : -(i.value.natAbs : ℤ) = i.value := by omega
    rw [readWhole?]
    simp only [splitSign, hread, if_true]
    exact congrArg some habs

theorem toText_eq_iff : a.toText = b.toText ↔ a.value = b.value := by
  constructor
  · intro h
    have hread := readWhole?_toText a
    rw [h, readWhole?_toText] at hread
    exact (Option.some.inj hread).symm
  · intro h
    rw [toText, h, ← toText]

theorem eq_iff_of_kind (h : a.kind = b.kind) : a = b ↔ a.value = b.value := by
  obtain ⟨_, _, _, _⟩ := a
  obtain ⟨_, _, _, _⟩ := b
  simp_all

end Integer

namespace Zoned

variable {α : Type} [CalendarPart α] [LawfulPart α] {x y : Zoned α}

theorem toText_eq_iff (hx : ∀ z, x.zone = some z → z.seconds % 60 = 0)
    (hy : ∀ z, y.zone = some z → z.seconds % 60 = 0) : x.toText = y.toText ↔ x = y := by
  constructor
  · intro h
    exact toChars_inj hx hy (String.ofList_inj.mp h)
  · rintro rfl
    rfl

end Zoned

theorem Duration.toText_eq_iff {a b : Duration} : a.toText = b.toText ↔ a.equalValue b = true := by
  rw [toText, toText, String.ofList_inj, componentChars_eq_iff readsAsNil_seconds, equalValue_iff]

theorem YearMonthDuration.toText_eq_iff {a b : YearMonthDuration} :
    a.toText = b.toText ↔ a = b := by
  have hchars : a.toText = b.toText ↔
      a.months = b.months ∧ Decimal.zero.toRat = Decimal.zero.toRat := by
    rw [toText, toText, String.ofList_inj]
    exact Duration.componentChars_eq_iff (a := .ofYearMonth a) (b := .ofYearMonth b)
      Duration.readsAsNil_months
  rw [hchars]
  obtain ⟨_, _⟩ := a
  obtain ⟨_, _⟩ := b
  simp

theorem DayTimeDuration.toText_eq_iff {a b : DayTimeDuration} :
    a.toText = b.toText ↔ a.seconds.equalValue b.seconds = true := by
  have hchars : a.toText = b.toText ↔ (0 : ℤ) = 0 ∧ a.seconds.toRat = b.seconds.toRat := by
    rw [toText, toText, String.ofList_inj]
    exact Duration.componentChars_eq_iff (a := .ofDayTime a) (b := .ofDayTime b)
      Duration.readsAsNil_seconds
  simp [hchars, Decimal.equalValue]

namespace AtomicValue

variable {v w : AtomicValue}

/-- The types whose values are told apart by their texts. -/
def HasCanonicalText (kind : AtomicKind) : Prop :=
  kind ≠ .float ∧ kind ≠ .double ∧ kind ≠ .qname

/-- Two values of one type, their zones of whole minutes, are the same exactly when their texts
are. -/
theorem sameAs_iff_text_eq (hkind : v.kind = w.kind) (hcanonical : HasCanonicalText v.kind)
    (hv : ∀ z, v.zone? = some z → z.seconds % 60 = 0)
    (hw : ∀ z, w.zone? = some z → z.seconds % 60 = 0) :
    v.sameAs w = true ↔ v.text = w.text := by
  obtain ⟨hfloat, hdouble, hqname⟩ := hcanonical
  cases v with
  | float | double | qname => simp [kind] at hfloat hdouble hqname
  | untypedAtomic s | string s | anyURI s =>
    cases w <;> cases hkind
    simp [sameAs, text]
  | boolean b =>
    cases w <;> cases hkind
    next c => cases b <;> cases c <;> decide
  | decimal d =>
    cases w <;> cases hkind
    simp [sameAs, text, Decimal.equalValue, Decimal.toText_eq_iff]
  | integer i =>
    cases w with
    | integer j =>
      have hkinds : i.kind = j.kind := AtomicKind.integer.inj hkind
      simp [sameAs, text, Integer.eq_iff_of_kind hkinds, Integer.toText_eq_iff]
    | _ => cases hkind
  | duration d =>
    cases w <;> cases hkind
    exact Duration.toText_eq_iff.symm
  | yearMonthDuration d =>
    cases w <;> cases hkind
    simp [sameAs, text, YearMonthDuration.toText_eq_iff]
  | dayTimeDuration d =>
    cases w <;> cases hkind
    exact DayTimeDuration.toText_eq_iff.symm
  | dateTime x | date x | time x | gYearMonth x | gYear x | gMonthDay x | gDay x | gMonth x =>
    cases w <;> cases hkind
    simp [sameAs, text, Zoned.toText_eq_iff hv hw]

/-- A negative zero has the text of zero, and a time in India not that of the same clock in UTC. -/
theorem sameAs_iff_text_eq_examples :
    (decimal ⟨true, 0, 3, by decide, by decide⟩).text = (decimal .zero).text ∧
      (time ⟨.midnight, some ⟨19800, by decide⟩⟩).text ≠ (time ⟨.midnight, some .utc⟩).text := by
  constructor
  · have hsame := sameAs_iff_text_eq (v := decimal ⟨true, 0, 3, by decide, by decide⟩)
      (w := decimal .zero) rfl (by simp [HasCanonicalText, kind]) (fun _ h => by cases h)
      (fun _ h => by cases h)
    exact hsame.mp (by decide +kernel)
  · have hsame := sameAs_iff_text_eq (v := time ⟨.midnight, some ⟨19800, by decide⟩⟩)
      (w := time ⟨.midnight, some .utc⟩) rfl (by simp [HasCanonicalText, kind])
      (fun z h => by obtain rfl := Option.some.inj h; rfl)
      (fun z h => by obtain rfl := Option.some.inj h; rfl)
    exact fun htext => absurd (hsame.mpr htext) (by decide)

end AtomicValue

end XPathValues

import Mathlib.Tactic
import XPathValues.Proofs.Calendar.RoundTrip
import XPathValues.Proofs.Outcome
import XPathValues.Proofs.Value.TemporalRows

/-!
# Where zones and years come from

Reading gives a zone of whole minutes within fourteen hours. No other operation but an adjustment
makes a zone of its own: the zone of a result is the one of an operand.
-/

namespace XPathValues

open Timezone

namespace Timezone

variable {zone : Timezone} {text body : List Char}

theorem lexical_of_readOffset? (h : readOffset? text = some zone) : zone.Lexical := by
  unfold readOffset? at h
  split at h
  · split at h
    · obtain ⟨_, _, h⟩ := Option.bind_eq_some_iff.mp h
      obtain ⟨_, _, h⟩ := Option.bind_eq_some_iff.mp h
      split at h
      · exact lexical_of_ofMinutes? h
      · cases h
    · cases h
  · cases h

theorem lexical_of_split? {found : Option Timezone} (h : split? text = some (body, found)) :
    ∀ z, found = some z → z.Lexical := by
  rintro z rfl
  unfold split? at h
  split_ifs at h
  · obtain rfl : utc = z := by simpa using congrArg Prod.snd (Option.some.inj h)
    exact utc_lexical
  · obtain ⟨zone, hread, heq⟩ := Option.map_eq_some_iff.mp h
    obtain rfl : zone = z := by simpa using congrArg Prod.snd heq
    exact lexical_of_readOffset? hread
  · cases congrArg Prod.snd (Option.some.inj h)

end Timezone

namespace Zoned

variable {α : Type} [CalendarPart α] {text : List Char} {x : Zoned α}

theorem exists_of_read? (h : read? text = some x) :
    ∃ body, Timezone.split? text = some (body, x.zone) ∧
      CalendarPart.read? body = some x.value := by
  obtain ⟨⟨body, zone⟩, hsplit, h⟩ := Option.bind_eq_some_iff.mp h
  obtain ⟨value, hvalue, h⟩ := Option.bind_eq_some_iff.mp h
  obtain rfl := Option.some.inj h
  exact ⟨body, hsplit, hvalue⟩

theorem lexical_of_read? (h : read? text = some x) : ∀ z, x.zone = some z → z.Lexical := by
  obtain ⟨body, hsplit, _⟩ := exists_of_read? h
  exact Timezone.lexical_of_split? hsplit

end Zoned

namespace AtomicValue

variable {a b v w : AtomicValue} {kind target : AtomicKind} {given : String} {bindings : Bindings}
  {zone : Timezone} {e : Error}

theorem zone?_of_not_isCalendar (h : v.isCalendar = false) : v.zone? = none := by
  cases v <;> first | rfl | cases h

theorem lexical_of_read (h : read kind given bindings = .ok v) :
    ∀ z, v.zone? = some z → z.Lexical := by
  have hkind := kind_read h
  unfold read at h
  cases kind
  case dateTime | date | time | gYearMonth | gYear | gMonthDay | gDay | gMonth =>
    obtain ⟨x, hx, rfl⟩ := eq_of_orInvalid h
    exact Zoned.lexical_of_read? hx
  all_goals
    have hzone : v.zone? = none := by cases v <;> first | rfl | cases hkind
    intro z hz
    rw [hzone] at hz
    cases hz

theorem year?_of_not_isCalendar (h : v.isCalendar = false) : v.year? = none := by
  cases v <;> first | rfl | cases h

theorem not_isCalendar_convertNumeric (h : v.convertNumeric target = .ok w) :
    w.isCalendar = false := by
  unfold convertNumeric at h
  split at h
  case h_21 => cases h
  all_goals
    first
      | cases h; rfl
      | obtain ⟨_, _, rfl⟩ := exists_of_map_eq_ok h; rfl

theorem not_isCalendar_castDuration {d : Duration} (h : castDuration d kind target = .ok w) :
    w.isCalendar = false := by
  unfold castDuration at h
  split at h <;> cases h <;> rfl

/-- A projection keeps the zone, and the year where the type has one. -/
theorem zone?_of_project {x : DateTime} (h : project x kind target = .ok w) :
    w.zone? = x.zone ∧ (w.year? = none ∨ w.year? = some x.value.date.year) := by
  unfold project at h
  split at h
  case h_9 => cases h
  all_goals
    cases h
    exact ⟨rfl, by first | exact Or.inl rfl | exact Or.inr rfl⟩

theorem zone?_of_asDateTime? {x : DateTime} (h : v.asDateTime? = some x) :
    v.zone? = x.zone ∧ v.year? = some x.value.date.year := by
  unfold asDateTime? at h
  split at h
  · cases h
    exact ⟨rfl, rfl⟩
  · cases h
    exact ⟨rfl, rfl⟩
  · cases h

theorem zone?_of_restrict (h : v.restrict target = .ok w) :
    w.zone? = v.zone? ∧ w.year? = v.year? ∧ w.isCalendar = v.isCalendar := by
  unfold restrict at h
  split at h
  · split at h
    · cases h
      exact ⟨rfl, rfl, rfl⟩
    · obtain ⟨j, _, rfl⟩ := exists_of_map_eq_ok h
      exact ⟨rfl, rfl, rfl⟩
  · cases h
    exact ⟨rfl, rfl, rfl⟩

theorem isSome_asText?_of_castRule (h : castRule v.kind target = .parse) :
    v.asText?.isSome = true := by
  have hkind : v.kind = .string ∨ v.kind = .untypedAtomic := by
    rw [castRule_eq] at h
    split_ifs at h with _ _ htext
    exact htext.imp_right And.left
  cases v <;> first | rfl | simp [kind] at hkind

theorem exists_of_elim_eq_ok {α : Type} {o : Option α} {f : α → Except Error AtomicValue}
    (h : o.elim (.error e) f = .ok w) : ∃ x, o = some x ∧ f x = .ok w := by
  cases o with
  | none => cases h
  | some x => exact ⟨x, rfl, h⟩

/-- A conversion reads the text of a text value, keeps the zone and the year of a calendar value, or
gives no calendar value. -/
theorem convert_cases (h : v.convert target bindings = .ok w) :
    (v.asText?.isSome = true ∧ read target v.text bindings = .ok w) ∨
      (w.zone? = v.zone? ∧ (w.year? = none ∨ w.year? = v.year?)) ∨ w.isCalendar = false := by
  unfold convert at h
  dsimp only at h
  split at h
  · cases h
  · cases h
    exact Or.inr (Or.inl ⟨rfl, Or.inr rfl⟩)
  · refine Or.inr (Or.inr ?_)
    split at h <;> cases h <;> rfl
  · next hrule => exact Or.inl ⟨isSome_asText?_of_castRule hrule, h⟩
  · exact Or.inr (Or.inr (not_isCalendar_convertNumeric h))
  · obtain ⟨d, _, h⟩ := exists_of_elim_eq_ok h
    exact Or.inr (Or.inr (not_isCalendar_castDuration h))
  · obtain ⟨x, hx, h⟩ := exists_of_elim_eq_ok h
    obtain ⟨hzone, hyear⟩ := zone?_of_asDateTime? hx
    obtain ⟨hzone', hyear'⟩ := zone?_of_project h
    exact Or.inr (Or.inl ⟨by rw [hzone', hzone], by rwa [hyear]⟩)

theorem cast_cases (h : v.cast target bindings = .ok w) :
    (v.asText?.isSome = true ∧ read target v.text bindings = .ok w) ∨
      (w.zone? = v.zone? ∧ (w.year? = none ∨ w.year? = v.year?)) ∨ w.isCalendar = false := by
  obtain ⟨converted, hconverted, hrestrict⟩ := exists_of_bind_eq_ok h
  obtain ⟨hzone, hyear, hcalendar⟩ := zone?_of_restrict hrestrict
  rw [hzone, hyear, hcalendar]
  rcases convert_cases hconverted with ⟨htext, hread⟩ | hkept
  · rw [restrict_of_kind_eq (kind_read hread)] at hrestrict
    obtain rfl := Except.ok.inj hrestrict
    exact Or.inl ⟨htext, hread⟩
  · exact Or.inr hkept

theorem zone?_of_cast (h : v.cast target bindings = .ok w) :
    ∀ z, w.zone? = some z → z.Lexical ∨ v.zone? = some z := by
  intro z hz
  rcases cast_cases h with ⟨_, hread⟩ | ⟨hzone, _⟩ | hnone
  · exact Or.inl (lexical_of_read hread z hz)
  · exact Or.inr (hzone ▸ hz)
  · rw [zone?_of_not_isCalendar hnone] at hz
    cases hz

/-! ## Arithmetic -/

theorem not_isCalendar_plainInteger? {n : ℤ} (h : orError e (plainInteger? n) = .ok w) :
    w.isCalendar = false := by
  obtain ⟨i, _, rfl⟩ := Option.map_eq_some_iff.mp (eq_some_of_orError h)
  rfl

theorem not_isCalendar_decimal {d? : Option Decimal} (h : orError e (d?.map decimal) = .ok w) :
    w.isCalendar = false := by
  obtain ⟨d, _, rfl⟩ := Option.map_eq_some_iff.mp (eq_some_of_orError h)
  rfl

theorem not_isCalendar_integerArithmetic {x y : ℤ} {op : ArithmeticOperator}
    (h : integerArithmetic x op y = .ok w) : w.isCalendar = false := by
  cases op with
  | add | subtract | multiply => exact not_isCalendar_plainInteger? h
  | divide =>
    simp only [integerArithmetic] at h
    split at h
    · cases h
    · split at h
      · exact not_isCalendar_decimal h
      · cases h
  | integerDivide =>
    simp only [integerArithmetic] at h
    split at h
    · cases h
    · exact not_isCalendar_plainInteger? h
  | modulo =>
    simp only [integerArithmetic] at h
    split_ifs at h
    exact not_isCalendar_plainInteger? h

theorem not_isCalendar_decimalArithmetic {x y : Decimal} {op : ArithmeticOperator}
    (h : decimalArithmetic x op y = .ok w) : w.isCalendar = false := by
  cases op with
  | add | subtract | multiply => exact not_isCalendar_decimal h
  | divide | modulo =>
    simp only [decimalArithmetic] at h
    split at h
    · cases h
    · exact not_isCalendar_decimal h
  | integerDivide =>
    simp only [decimalArithmetic] at h
    split at h
    · cases h
    · obtain ⟨q, _, hq⟩ := Option.bind_eq_some_iff.mp (eq_some_of_orError h)
      obtain ⟨i, _, rfl⟩ := Option.map_eq_some_iff.mp hq
      rfl

theorem not_isCalendar_doubleQuotient {x y : Double} (h : doubleQuotient x y = .ok w) :
    w.isCalendar = false := by
  unfold doubleQuotient at h
  split_ifs at h
  obtain ⟨n, _, hn⟩ := Option.bind_eq_some_iff.mp (eq_some_of_orError h)
  obtain ⟨i, _, rfl⟩ := Option.map_eq_some_iff.mp hn
  rfl

theorem not_isCalendar_numericArithmetic {op : ArithmeticOperator} {pair : Numeric.Pair}
    (h : numericArithmetic op pair = .ok w) : w.isCalendar = false := by
  cases pair with
  | integers x y => exact not_isCalendar_integerArithmetic h
  | decimals x y => exact not_isCalendar_decimalArithmetic h
  | floats x y =>
    simp only [numericArithmetic] at h
    split at h
    · cases h
      rfl
    · exact not_isCalendar_doubleQuotient h
  | doubles x y =>
    simp only [numericArithmetic] at h
    split at h
    · cases h
      rfl
    · exact not_isCalendar_doubleQuotient h

theorem not_isCalendar_map {α : Type} {make : α → AtomicValue} {x : Except Error α}
    (hmake : ∀ y, (make y).isCalendar = false) (h : some (x.map make) = some (.ok w)) :
    w.isCalendar = false := by
  obtain ⟨y, _, rfl⟩ := exists_of_map_eq_ok (Option.some.inj h)
  exact hmake y

theorem not_isCalendar_addDurations? (h : addDurations? a b = some (.ok w)) :
    w.isCalendar = false := by
  unfold addDurations? at h
  split at h
  · exact not_isCalendar_map (fun _ => rfl) h
  · exact not_isCalendar_map (fun _ => rfl) h
  · cases h

theorem not_isCalendar_difference? (h : difference? zone a b = some (.ok w)) :
    w.isCalendar = false := by
  unfold difference? at h
  split at h
  · exact not_isCalendar_map (fun _ => rfl) h
  · exact not_isCalendar_map (fun _ => rfl) h
  · exact not_isCalendar_map (fun _ => rfl) h
  · cases h

theorem not_isCalendar_ratio? (h : ratio? a b = some (.ok w)) : w.isCalendar = false := by
  unfold ratio? at h
  split at h
  · exact not_isCalendar_map (fun _ => rfl) h
  · exact not_isCalendar_map (fun _ => rfl) h
  · cases h

theorem not_isCalendar_scale? {x : Numeric} (h : scale? v x = some (.ok w)) :
    w.isCalendar = false := by
  unfold scale? at h
  split at h
  · obtain ⟨f, _, h⟩ := exists_of_bind_eq_ok (Option.some.inj h)
    exact not_isCalendar_map (fun _ => rfl) (congrArg some h)
  · obtain ⟨f, _, h⟩ := exists_of_bind_eq_ok (Option.some.inj h)
    exact not_isCalendar_map (fun _ => rfl) (congrArg some h)
  · cases h

theorem not_isCalendar_shrink? {x : Numeric} (h : shrink? v x = some (.ok w)) :
    w.isCalendar = false := by
  unfold shrink? at h
  split at h
  · obtain ⟨f, _, h⟩ := exists_of_bind_eq_ok (Option.some.inj h)
    exact not_isCalendar_map (fun _ => rfl) (congrArg some h)
  · obtain ⟨f, _, h⟩ := exists_of_bind_eq_ok (Option.some.inj h)
    exact not_isCalendar_map (fun _ => rfl) (congrArg some h)
  · cases h

end AtomicValue

namespace DateTime

variable {x y : DateTime}

theorem zone_of_addMonths {d : YearMonthDuration} (h : x.addMonths d = .ok y) :
    y.zone = x.zone := by
  obtain ⟨_, _, h⟩ := exists_of_bind_eq_ok h
  obtain ⟨_, _, h⟩ := exists_of_bind_eq_ok h
  cases h
  rfl

theorem zone_of_addSeconds {d : DayTimeDuration} (h : x.addSeconds d = .ok y) :
    y.zone = x.zone := by
  unfold addSeconds at h
  split at h
  · cases h
    rfl
  · cases h

end DateTime

namespace Date

variable {x y : Date}

theorem zone_of_addMonths {d : YearMonthDuration} (h : x.addMonths d = .ok y) :
    y.zone = x.zone := by
  obtain ⟨moved, hmoved, rfl⟩ := exists_of_map_eq_ok h
  exact DateTime.zone_of_addMonths hmoved

theorem zone_of_addSeconds {d : DayTimeDuration} (h : x.addSeconds d = .ok y) :
    y.zone = x.zone := by
  obtain ⟨moved, hmoved, rfl⟩ := exists_of_map_eq_ok h
  exact DateTime.zone_of_addSeconds hmoved

end Date

theorem Time.zone_of_addSeconds {x y : Time} {d : DayTimeDuration} (h : x.addSeconds d = .ok y) :
    y.zone = x.zone := by
  unfold addSeconds at h
  split at h
  · cases h
    rfl
  · cases h

namespace AtomicValue

variable {a b v w : AtomicValue} {zone : Timezone}

theorem zone?_of_map {α : Type} {make : α → AtomicValue} {x : Except Error α}
    (h : x.map make = .ok w) (hmake : ∀ y, x = .ok y → (make y).zone? = a.zone?) :
    w.zone? = a.zone? := by
  obtain ⟨y, hy, rfl⟩ := exists_of_map_eq_ok h
  exact hmake y hy

theorem zone?_of_move? (h : move? a b = some (.ok w)) : w.zone? = a.zone? := by
  unfold move? at h
  split at h
  · exact zone?_of_map (Option.some.inj h) fun _ hy => DateTime.zone_of_addMonths hy
  · exact zone?_of_map (Option.some.inj h) fun _ hy => DateTime.zone_of_addSeconds hy
  · exact zone?_of_map (Option.some.inj h) fun _ hy => Date.zone_of_addMonths hy
  · exact zone?_of_map (Option.some.inj h) fun _ hy => Date.zone_of_addSeconds hy
  · exact zone?_of_map (Option.some.inj h) fun _ hy => Time.zone_of_addSeconds hy
  · cases h

theorem zone?_of_subtractDuration? (h : subtractDuration? a b = some (.ok w)) :
    w.zone? = a.zone? := by
  unfold subtractDuration? at h
  split at h
  · obtain ⟨_, _, h⟩ := exists_of_bind_eq_ok (Option.some.inj h)
    exact zone?_of_map h fun _ _ => rfl
  · exact zone?_of_map (Option.some.inj h) fun _ _ => rfl
  · obtain ⟨_, _, h⟩ := exists_of_bind_eq_ok (Option.some.inj h)
    exact zone?_of_map h fun _ hy => DateTime.zone_of_addMonths hy
  · exact zone?_of_map (Option.some.inj h) fun _ hy => DateTime.zone_of_addSeconds hy
  · obtain ⟨_, _, h⟩ := exists_of_bind_eq_ok (Option.some.inj h)
    exact zone?_of_map h fun _ hy => Date.zone_of_addMonths hy
  · exact zone?_of_map (Option.some.inj h) fun _ hy => Date.zone_of_addSeconds hy
  · exact zone?_of_map (Option.some.inj h) fun _ hy => Time.zone_of_addSeconds hy
  · cases h

/-- The operators on durations and calendar values keep the zone of an operand or give no calendar
value. -/
theorem temporalArithmetic?_cases {op : ArithmeticOperator}
    (h : temporalArithmetic? a op b zone = some (.ok w)) :
    w.zone? = a.zone? ∨ w.zone? = b.zone? ∨ w.isCalendar = false := by
  rw [temporalArithmetic?_eq] at h
  cases op with
  | add =>
    rcases Option.or_eq_some_iff.mp h with h | ⟨_, h⟩
    · rcases Option.or_eq_some_iff.mp h with h | ⟨_, h⟩
      · exact Or.inr (Or.inr (not_isCalendar_addDurations? h))
      · exact Or.inl (zone?_of_move? h)
    · exact Or.inr (Or.inl (zone?_of_move? h))
  | subtract =>
    rcases Option.or_eq_some_iff.mp h with h | ⟨_, h⟩
    · exact Or.inl (zone?_of_subtractDuration? h)
    · exact Or.inr (Or.inr (not_isCalendar_difference? h))
  | multiply =>
    rcases Option.or_eq_some_iff.mp h with h | ⟨_, h⟩
    · obtain ⟨x, _, h⟩ := Option.bind_eq_some_iff.mp h
      exact Or.inr (Or.inr (not_isCalendar_scale? h))
    · obtain ⟨x, _, h⟩ := Option.bind_eq_some_iff.mp h
      exact Or.inr (Or.inr (not_isCalendar_scale? h))
  | divide =>
    rcases Option.or_eq_some_iff.mp h with h | ⟨_, h⟩
    · obtain ⟨x, _, h⟩ := Option.bind_eq_some_iff.mp h
      exact Or.inr (Or.inr (not_isCalendar_shrink? h))
    · exact Or.inr (Or.inr (not_isCalendar_ratio? h))
  | integerDivide | modulo => cases h

theorem untypedAsDouble_cases (h : v.untypedAsDouble = .ok w) : w = v ∨ w.isCalendar = false := by
  unfold untypedAsDouble at h
  split at h
  · next huntyped =>
    cases v
    case untypedAtomic s =>
      rw [cast_of_parse rfl] at h
      have hkind := kind_read h
      right
      cases w <;> first | rfl | cases hkind
    all_goals cases huntyped
  · exact Or.inl (Except.ok.inj h).symm

theorem zone?_of_untypedAsDouble (h : v.untypedAsDouble = .ok w) :
    ∀ z, w.zone? = some z → v.zone? = some z := by
  intro z hz
  rcases untypedAsDouble_cases h with rfl | hnone
  · exact hz
  · rw [zone?_of_not_isCalendar hnone] at hz
    cases hz

/-- The zone of the result of an operator is that of an operand. -/
theorem zone?_of_arithmetic {op : ArithmeticOperator} (h : arithmetic a op b zone = .ok w) :
    ∀ z, w.zone? = some z → a.zone? = some z ∨ b.zone? = some z := by
  intro z hz
  obtain ⟨x, hx, h⟩ := exists_of_bind_eq_ok h
  obtain ⟨y, hy, h⟩ := exists_of_bind_eq_ok h
  have hkept : w.zone? = x.zone? ∨ w.zone? = y.zone? ∨ w.isCalendar = false := by
    split at h
    · exact Or.inr (Or.inr (not_isCalendar_numericArithmetic h))
    · cases hresult : temporalArithmetic? x op y zone with
      | none =>
        rw [hresult] at h
        cases h
      | some result =>
        rw [hresult] at h
        obtain rfl : result = .ok w := h
        exact temporalArithmetic?_cases hresult
  rcases hkept with hleft | hright | hnone
  · exact Or.inl (zone?_of_untypedAsDouble hx z (hleft ▸ hz))
  · exact Or.inr (zone?_of_untypedAsDouble hy z (hright ▸ hz))
  · rw [zone?_of_not_isCalendar hnone] at hz
    cases hz

theorem not_isCalendar_negate (h : v.negate = .ok w) : w.isCalendar = false := by
  obtain ⟨x, _, h⟩ := exists_of_bind_eq_ok h
  split at h
  · exact not_isCalendar_plainInteger? h
  · cases h
    rfl
  · cases h
    rfl
  · cases h
    rfl
  · obtain ⟨d, _, rfl⟩ := exists_of_map_eq_ok h
    rfl
  · cases h
    rfl
  · cases h

end AtomicValue

namespace DateTime

theorem zone_of_adjust {x y : DateTime} {target : Option Timezone} (h : x.adjust target = .ok y) :
    y.zone = target := by
  unfold adjust at h
  split at h
  · next hsome =>
    split at h
    · cases h
      rfl
    · cases h
  · cases h
    rfl

end DateTime

theorem Date.zone_of_adjust {x y : Date} {target : Option Timezone} (h : x.adjust target = .ok y) :
    y.zone = target := by
  obtain ⟨moved, hmoved, rfl⟩ := exists_of_map_eq_ok h
  exact DateTime.zone_of_adjust hmoved

theorem Time.zone_adjust (x : Time) (target : Option Timezone) :
    (x.adjust target).zone = target := by
  unfold adjust
  split <;> rfl

end XPathValues

import Mathlib.Data.String.Basic
import Mathlib.Tactic
import XPathValues.Comparison
import XPathValues.Proofs.Value.Casting

/-!
# How two values are related

The relation of two values exchanged is the mirrored one, whichever family they belong to. Whether
there is a relation, and whether it is an order, follows from the two types alone; only calendar
values can fail to be related, where one of them has no instant in the calendar.
-/

namespace XPathValues

/-! ## Mirrored orders -/

theorem compareOfLessAndEq_swap {α : Type} [LinearOrder α] (a b : α) :
    (compareOfLessAndEq a b).swap = compareOfLessAndEq b a := by
  rw [← cmp_eq_compareOfLessAndEq, ← cmp_eq_compareOfLessAndEq, cmp_swap]

theorem compareTexts_swap (a b : String) : (compareTexts a b).swap = compareTexts b a :=
  compareOfLessAndEq_swap a b

theorem compareIntegers_swap (a b : Int) : (compareIntegers a b).swap = compareIntegers b a :=
  compareOfLessAndEq_swap a b

theorem compareTruths_swap (a b : Bool) : (compareTruths a b).swap = compareTruths b a := by
  cases a <;> cases b <;> rfl

theorem Moment.compare_swap (a b : Moment) : (a.compare b).swap = b.compare a :=
  compareOfLessAndEq_swap a.nanos b.nanos

theorem Decimal.compare_swap (a b : Decimal) : (a.compare b).swap = b.compare a :=
  Rounding.compareExact_swap _ _

theorem Duration.equalValue_comm (a b : Duration) : a.equalValue b = b.equalValue a := by
  unfold equalValue Decimal.equalValue
  rw [BEq.comm, decide_eq_decide.mpr eq_comm]

theorem BinaryFloat.compare?_swap {f : BinaryFormat} (x y : BinaryFloat f) :
    (x.compare? y).map Ordering.swap = y.compare? x := by
  cases x with
  | nan => cases y <;> rfl
  | infinity a =>
    cases y with
    | infinity b => cases a <;> cases b <;> rfl
    | _ => cases a <;> rfl
  | finite a m j _ =>
    cases y with
    | nan => rfl
    | infinity b => cases b <;> rfl
    | finite b n k _ => exact congrArg some (Rounding.compareExact_swap _ _)

theorem Numeric.Pair.compare?_swap (pair : Pair) :
    pair.swap.compare? = pair.compare?.map Ordering.swap := by
  cases pair with
  | integers a b => exact congrArg some (compareIntegers_swap a b).symm
  | decimals a b => exact congrArg some (a.compare_swap b).symm
  | floats a b => exact (a.compare?_swap b).symm
  | doubles a b => exact (a.compare?_swap b).symm

namespace Relation

def swap : Relation → Relation
  | ordered order => ordered order.swap
  | unordered => unordered
  | equality equal => equality equal

theorem answer?_swap (relation : Relation) (op : ComparisonOperator) :
    relation.swap.answer? op.converse = relation.answer? op := by
  cases relation with
  | ordered order => exact congrArg some (op.holds_converse order)
  | unordered => cases op <;> rfl
  | equality equal => cases op <;> rfl

theorem ofOrdering?_map_swap (order : Option Ordering) :
    ofOrdering? (order.map Ordering.swap) = (ofOrdering? order).swap := by
  cases order <;> rfl

end Relation

/-! ## Families -/

namespace AtomicKind

/-- The types that have a place in the calendar. -/
def isCalendar : AtomicKind → Bool
  | dateTime | date | time | gYearMonth | gYear | gMonthDay | gDay | gMonth => true
  | _ => false

/-- The types, beside those of numbers and texts, whose values have an order. -/
def isOrdered : AtomicKind → Bool
  | boolean | yearMonthDuration | dayTimeDuration | dateTime | date | time => true
  | _ => false

/-- Whether values of the two types have an order or an equality only, if they compare at all. -/
def order? (a b : AtomicKind) : Option Bool :=
  if a.isNumeric ∧ b.isNumeric ∨ a.isStringLike ∧ b.isStringLike then some true
  else if a = b then some a.isOrdered
  else if a.isDuration ∧ b.isDuration then some false
  else none

/-- Whether an operator is defined on the two types, an equality or an ordering one. -/
def isComparable (a b : AtomicKind) (equality : Bool) : Bool :=
  (order? a b).any fun hasOrder => hasOrder || equality

end AtomicKind

namespace Relation

/-- The relation answers for the ordering operators, too. -/
def hasOrder : Relation → Bool
  | equality _ => false
  | _ => true

theorem isSome_answer? (relation : Relation) (op : ComparisonOperator) :
    (relation.answer? op).isSome = (relation.hasOrder || op.isEquality) := by
  cases relation <;> cases op <;> rfl

theorem answer?_ne (relation : Relation) :
    relation.answer? .ne = (relation.answer? .eq).map (!·) := by
  cases relation with
  | ordered order => cases order <;> rfl
  | unordered => rfl
  | equality equal => rfl

theorem hasOrder_ofOrdering? (order : Option Ordering) : (ofOrdering? order).hasOrder = true := by
  cases order <;> rfl

/-- The relation of two instants, as an order or as an equality only. -/
def ofInstants (hasOrder : Bool) (x y : Moment) : Relation :=
  if hasOrder then .ordered (x.compare y) else .equality (x.compare y == .eq)

theorem hasOrder_ofInstants (hasOrder : Bool) (x y : Moment) :
    (ofInstants hasOrder x y).hasOrder = hasOrder := by
  cases hasOrder <;> rfl

theorem ofInstants_swap (hasOrder : Bool) (x y : Moment) :
    (ofInstants hasOrder x y).swap = ofInstants hasOrder y x := by
  rw [ofInstants, ofInstants, ← x.compare_swap y]
  cases hasOrder with
  | true => rfl
  | false => cases x.compare y <;> rfl

end Relation

namespace Zoned

variable {α : Type} [CalendarPart α] {zone : Timezone}

theorem instant_eq_error {x : Zoned α} {e : Error} (h : x.instant zone = .error e) :
    e = .dateTimeOutOfRange := by
  unfold instant at h
  split at h
  · cases h
  · exact (Except.error.inj h).symm

theorem orderedBy_eq (a b : Zoned α) :
    a.orderedBy b zone = do
      let x ← a.instant zone
      let y ← b.instant zone
      return some (.ofInstants true x y) := by
  unfold orderedBy compareInstants
  cases a.instant zone <;> cases b.instant zone <;> rfl

theorem equalBy_eq (a b : Zoned α) :
    a.equalBy b zone = do
      let x ← a.instant zone
      let y ← b.instant zone
      return some (.ofInstants false x y) := by
  unfold equalBy compareInstants
  cases a.instant zone <;> cases b.instant zone <;> rfl

end Zoned

namespace AtomicValue

variable {a b v : AtomicValue} {zone : Timezone}

def instant? (zone : Timezone) : AtomicValue → Option (Except Error Moment)
  | dateTime x => some (x.instant zone)
  | date x => some (x.instant zone)
  | time x => some (x.instant zone)
  | gYearMonth x => some (x.instant zone)
  | gYear x => some (x.instant zone)
  | gMonthDay x => some (x.instant zone)
  | gDay x => some (x.instant zone)
  | gMonth x => some (x.instant zone)
  | _ => none

theorem isSome_instant? (v : AtomicValue) (zone : Timezone) :
    (v.instant? zone).isSome = v.kind.isCalendar := by
  cases v <;> rfl

theorem instant?_eq_error {e : Error} (h : v.instant? zone = some (.error e)) :
    e = .dateTimeOutOfRange := by
  cases v <;> first | exact Zoned.instant_eq_error (Option.some.inj h) | cases h

theorem isSome_asText? (v : AtomicValue) : v.asText?.isSome = v.kind.isStringLike := by
  cases v <;> rfl

/-! ## The relation by families -/

/-- Durations of whatever types compare for equality. -/
def relateDurations (a b : AtomicValue) : Option Relation :=
  match a.asDuration?, b.asDuration? with
  | some x, some y => some (.equality (x.equalValue y))
  | _, _ => none

theorem relateDurations_swap (a b : AtomicValue) :
    relateDurations b a = (relateDurations a b).map .swap := by
  unfold relateDurations
  cases a.asDuration? with
  | none => cases b.asDuration? <;> rfl
  | some x =>
    cases b.asDuration? with
    | none => rfl
    | some y => exact congrArg (some ∘ Relation.equality) (x.equalValue_comm y).symm

theorem hasOrder_relateDurations (a b : AtomicValue) :
    (relateDurations a b).map Relation.hasOrder =
      if a.kind.isDuration ∧ b.kind.isDuration then some false else none := by
  rw [← isSome_asDuration?, ← isSome_asDuration?]
  unfold relateDurations
  cases a.asDuration? <;> cases b.asDuration? <;> rfl

theorem relate_eq_relateSpecial
    (hnumbers : ¬ (a.kind.isNumeric = true ∧ b.kind.isNumeric = true))
    (htexts : ¬ (a.kind.isStringLike = true ∧ b.kind.isStringLike = true)) :
    relate a b zone = relateSpecial zone a b := by
  rw [← isSome_asNumeric?, ← isSome_asNumeric?] at hnumbers
  rw [← isSome_asText?, ← isSome_asText?] at htexts
  unfold relate
  split
  · next hx hy => exact absurd ⟨by rw [hx]; rfl, by rw [hy]; rfl⟩ hnumbers
  · split
    · next hx hy => exact absurd ⟨by rw [hx]; rfl, by rw [hy]; rfl⟩ htexts
    · rfl

theorem relateSpecial_of_kind_ne (h : a.kind ≠ b.kind) :
    relateSpecial zone a b = .ok (relateDurations a b) := by
  cases a <;> cases b <;> first | rfl | exact absurd rfl h

/-- Two calendar values of one type are related as their instants are. -/
theorem relate_of_instants {x y : Except Error Moment} (hkind : a.kind = b.kind)
    (ha : a.instant? zone = some x) (hb : b.instant? zone = some y) :
    relate a b zone = do
      let x ← x
      let y ← y
      return some (.ofInstants a.kind.isOrdered x y) := by
  cases a <;> cases ha <;> cases b <;> cases hkind <;> cases hb
  all_goals first | exact Zoned.orderedBy_eq _ _ | exact Zoned.equalBy_eq _ _

/-- The two values are related in one way, in the other direction in the mirrored way, and whether
they have an order is a matter of their types. -/
structure IsRelation (a b : AtomicValue) (zone : Timezone) (relation? : Option Relation) :
    Prop where
  relate : relate a b zone = .ok relation?
  exchanged : AtomicValue.relate b a zone = .ok (relation?.map .swap)
  hasOrder : relation?.map Relation.hasOrder = a.kind.order? b.kind

theorem isRelation_of_numbers {x y : Numeric} (ha : a.asNumeric? = some x)
    (hb : b.asNumeric? = some y) :
    IsRelation a b zone (some (.ofOrdering? (Numeric.promote x y).compare?)) where
  relate := by simp only [AtomicValue.relate, ha, hb]
  exchanged := by
    simp only [AtomicValue.relate, ha, hb, Option.map_some]
    rw [← Numeric.promote_swap, Numeric.Pair.compare?_swap, Relation.ofOrdering?_map_swap]
  hasOrder := by
    have hkinds : a.kind.isNumeric = true ∧ b.kind.isNumeric = true := by
      simp [← isSome_asNumeric?, ha, hb]
    simp [AtomicKind.order?, hkinds, Relation.hasOrder_ofOrdering?]

theorem isRelation_of_texts {x y : String} (ha : a.asText? = some x) (hb : b.asText? = some y) :
    IsRelation a b zone (some (.ordered (compareTexts x y))) := by
  have hnumbers : a.asNumeric? = none ∧ b.asNumeric? = none := by
    constructor
    · cases a <;> first | rfl | cases ha
    · cases b <;> first | rfl | cases hb
  have hkinds : a.kind.isStringLike = true ∧ b.kind.isStringLike = true := by
    simp [← isSome_asText?, ha, hb]
  refine ⟨?_, ?_, ?_⟩
  · simp only [AtomicValue.relate, hnumbers, ha, hb]
  · simp only [AtomicValue.relate, hnumbers, ha, hb, Option.map_some, Relation.swap,
      compareTexts_swap]
  · simp [AtomicKind.order?, hkinds, Relation.hasOrder]

/-- What is left of one type beside the calendar: truth values, names and durations. -/
theorem exists_isRelation_of_kind_eq (hkind : a.kind = b.kind) (hnumber : a.kind.isNumeric = false)
    (htext : a.kind.isStringLike = false) (hcalendar : a.kind.isCalendar = false) :
    ∃ relation?, IsRelation a b zone relation? := by
  cases a with
  | boolean x =>
    cases b <;> cases hkind
    exact ⟨_, rfl, by rw [Option.map_some, Relation.swap, compareTruths_swap]; rfl, rfl⟩
  | qname x =>
    cases b <;> cases hkind
    exact ⟨_, rfl, by rw [Option.map_some, Relation.swap, BEq.comm]; rfl, rfl⟩
  | duration x =>
    cases b <;> cases hkind
    exact ⟨_, rfl, by rw [Option.map_some, Relation.swap, Duration.equalValue_comm]; rfl, rfl⟩
  | yearMonthDuration x =>
    cases b <;> cases hkind
    exact ⟨_, rfl, by rw [Option.map_some, Relation.swap, compareIntegers_swap]; rfl, rfl⟩
  | dayTimeDuration x =>
    cases b <;> cases hkind
    exact ⟨_, rfl, by rw [Option.map_some, Relation.swap, Decimal.compare_swap]; rfl, rfl⟩
  | decimal _ | integer _ | float _ | double _ => cases hnumber
  | untypedAtomic _ | string _ | anyURI _ => cases htext
  | dateTime _ | date _ | time _ | gYearMonth _ | gYear _ | gMonthDay _ | gDay _ | gMonth _ =>
    cases hcalendar

theorem isRelation_of_kind_ne (hkind : a.kind ≠ b.kind)
    (hnumbers : ¬ (a.kind.isNumeric = true ∧ b.kind.isNumeric = true))
    (htexts : ¬ (a.kind.isStringLike = true ∧ b.kind.isStringLike = true)) :
    IsRelation a b zone (relateDurations a b) where
  relate := by
    rw [relate_eq_relateSpecial hnumbers htexts, relateSpecial_of_kind_ne hkind]
  exchanged := by
    rw [relate_eq_relateSpecial (mt And.symm hnumbers) (mt And.symm htexts),
      relateSpecial_of_kind_ne (Ne.symm hkind), relateDurations_swap]
  hasOrder := by
    rw [hasOrder_relateDurations, AtomicKind.order?, if_neg (not_or_intro hnumbers htexts),
      if_neg hkind]

theorem isRelation_of_instants {x y : Moment} (hkind : a.kind = b.kind)
    (ha : a.instant? zone = some (.ok x)) (hb : b.instant? zone = some (.ok y)) :
    IsRelation a b zone (some (.ofInstants a.kind.isOrdered x y)) where
  relate := relate_of_instants hkind ha hb
  exchanged := by
    rw [relate_of_instants hkind.symm hb ha, Option.map_some, Relation.ofInstants_swap, hkind]
    rfl
  hasOrder := by
    have hcalendar : a.kind.isCalendar = true := by
      rw [← isSome_instant? a zone, ha]
      rfl
    rw [Option.map_some, Relation.hasOrder_ofInstants, ← hkind]
    cases a <;> first | rfl | cases hcalendar

/-- Two values that are not of one calendar type always have a relation, or never do. -/
theorem exists_isRelation (h : ¬ (a.kind = b.kind ∧ a.kind.isCalendar = true)) :
    ∃ relation?, IsRelation a b zone relation? := by
  by_cases hnumbers : a.kind.isNumeric = true ∧ b.kind.isNumeric = true
  · simp only [← isSome_asNumeric?, Option.isSome_iff_exists] at hnumbers
    obtain ⟨⟨x, hx⟩, y, hy⟩ := hnumbers
    exact ⟨_, isRelation_of_numbers hx hy⟩
  by_cases htexts : a.kind.isStringLike = true ∧ b.kind.isStringLike = true
  · simp only [← isSome_asText?, Option.isSome_iff_exists] at htexts
    obtain ⟨⟨x, hx⟩, y, hy⟩ := htexts
    exact ⟨_, isRelation_of_texts hx hy⟩
  by_cases hkind : a.kind = b.kind
  · rw [← hkind] at hnumbers htexts
    simp only [and_self, Bool.not_eq_true] at hnumbers htexts
    simp only [hkind, true_and, Bool.not_eq_true] at h
    exact exists_isRelation_of_kind_eq hkind hnumbers htexts (hkind ▸ h)
  · exact ⟨_, isRelation_of_kind_ne hkind hnumbers htexts⟩

end AtomicValue

end XPathValues

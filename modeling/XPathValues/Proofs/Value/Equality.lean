import Mathlib.Tactic
import XPathValues.Proofs.Calendar.Timeline
import XPathValues.Proofs.Value.ExactOrder

/-!
# Equality and order within one type

Beside the two binary floating point types, which know a number that equals nothing, the values of
one type are compared by what they stand for: a text, a truth, a name, a number, or a place on the
timeline. So their equality is an equivalence, and the types with an order tell for every two values
which comes first. Only a value whose place leaves the calendar when it is moved to UTC is compared
with none of its type. Clocks that read within a leap second are left out.
-/

namespace XPathValues

/-! ## Orders that are exact about equality -/

theorem compareOfLessAndEq_eq_eq_iff {α : Type} [LinearOrder α] {a b : α} :
    compareOfLessAndEq a b = .eq ↔ a = b := by
  rw [← cmp_eq_compareOfLessAndEq, cmp_eq_eq_iff]

theorem compareTexts_eq_eq_iff {a b : String} : compareTexts a b = .eq ↔ a = b :=
  compareOfLessAndEq_eq_eq_iff

theorem compareIntegers_eq_eq_iff {a b : ℤ} : compareIntegers a b = .eq ↔ a = b :=
  compareOfLessAndEq_eq_eq_iff

theorem compareTruths_eq_eq_iff {a b : Bool} : compareTruths a b = .eq ↔ a = b := by
  cases a <;> cases b <;> decide

namespace Relation

/-- The relation says of two values whether they are equal. -/
def Decides (relation : Relation) (equal : Prop) : Prop :=
  match relation with
  | ordered order => order = .eq ↔ equal
  | equality flag => flag = true ↔ equal
  | unordered => False

variable {relation : Relation} {equal : Prop}

theorem Decides.answer?_eq [Decidable equal] (h : relation.Decides equal) :
    relation.answer? .eq = some (decide equal) := by
  cases relation with
  | ordered order =>
    have hflag : (order == .eq) = decide equal := by
      rw [Bool.eq_iff_iff, beq_iff_eq, decide_eq_true_iff]
      exact h
    exact congrArg some hflag
  | unordered => exact h.elim
  | equality flag =>
    have hflag : flag = decide equal := by
      rw [Bool.eq_iff_iff, decide_eq_true_iff]
      exact h
    exact congrArg some hflag

theorem Decides.exists_ordered (h : relation.Decides equal) (horder : relation.hasOrder = true) :
    ∃ order, relation = ordered order := by
  cases relation with
  | ordered order => exact ⟨order, rfl⟩
  | unordered => exact h.elim
  | equality flag => cases horder

theorem decides_ofInstants {hasOrder : Bool} {x y : Moment} :
    (ofInstants hasOrder x y).Decides (x.nanos = y.nanos) := by
  have heq : x.compare y = .eq ↔ x.nanos = y.nanos := by
    rw [Moment.compare_eq_eq_iff]
    exact ⟨congrArg Moment.nanos, Moment.nanos_inj⟩
  cases hasOrder with
  | true => exact heq
  | false => exact beq_iff_eq.trans heq

end Relation

/-- What the values of one type are told apart by. -/
inductive Comparand where
  | text (s : String)
  | truth (b : Bool)
  | name (n : ExpandedName)
  | number (q : ℚ)
  | span (months : ℤ) (seconds : ℚ)
deriving DecidableEq

namespace AtomicValue

variable {a b v : AtomicValue} {kind : AtomicKind} {zone : Timezone} {x y : Comparand}

def utcNanos? (zone : Timezone) : AtomicValue → Option ℤ
  | dateTime x => some (x.utcNanos zone)
  | date x => some (x.utcNanos zone)
  | time x => some (x.utcNanos zone)
  | gYearMonth x => some (x.utcNanos zone)
  | gYear x => some (x.utcNanos zone)
  | gMonthDay x => some (x.utcNanos zone)
  | gDay x => some (x.utcNanos zone)
  | gMonth x => some (x.utcNanos zone)
  | _ => none

/-- The value is not one of the calendar, or it stays there when it is moved to UTC. -/
def OnTimeline (v : AtomicValue) (zone : Timezone) : Prop :=
  ∀ n ∈ v.utcNanos? zone, Moment.InCalendar n

instance (v : AtomicValue) (zone : Timezone) : Decidable (v.OnTimeline zone) := by
  unfold OnTimeline
  infer_instance

theorem exists_instant? {n : ℤ} (hnanos : v.utcNanos? zone = some n) (h : v.OnTimeline zone) :
    ∃ m, v.instant? zone = some (.ok m) ∧ m.nanos = n := by
  have hcalendar := h n hnanos
  cases v
  case dateTime | date | time | gYearMonth | gYear | gMonthDay | gDay | gMonth =>
    obtain rfl := Option.some.inj hnanos
    obtain ⟨m, hm⟩ := Zoned.exists_instant_iff.mpr hcalendar
    exact ⟨m, congrArg some hm, Zoned.instant_eq_ok_iff_nanos.mp hm⟩
  all_goals cases hnanos

theorem onTimeline_of_instant? {m : Moment} (h : v.instant? zone = some (.ok m)) :
    v.OnTimeline zone := by
  intro n hn
  cases v
  case dateTime | date | time | gYearMonth | gYear | gMonthDay | gDay | gMonth =>
    obtain rfl := Option.some.inj hn
    exact Zoned.exists_instant_iff.mp ⟨m, Option.some.inj h⟩
  all_goals cases hn

theorem isSome_utcNanos? (v : AtomicValue) (zone : Timezone) :
    (v.utcNanos? zone).isSome = v.kind.isCalendar := by
  cases v <;> rfl

theorem exists_instant?_of_isCalendar (hcalendar : v.kind.isCalendar = true)
    (h : v.OnTimeline zone) : ∃ m, v.instant? zone = some (.ok m) := by
  obtain ⟨n, hn⟩ := Option.isSome_iff_exists.mp ((isSome_utcNanos? v zone).trans hcalendar)
  obtain ⟨m, hm, _⟩ := exists_instant? hn h
  exact ⟨m, hm⟩

theorem onTimeline_iff (v : AtomicValue) (zone : Timezone) :
    v.OnTimeline zone ↔ v.instant? zone ≠ some (.error .dateTimeOutOfRange) := by
  constructor
  · intro h hfail
    have hcalendar : v.kind.isCalendar = true := by
      rw [← isSome_instant? v zone, hfail]
      rfl
    obtain ⟨m, hm⟩ := exists_instant?_of_isCalendar hcalendar h
    cases hfail.symm.trans hm
  · intro h
    cases hinstant : v.instant? zone with
    | none =>
      intro n hn
      have hnone : (v.utcNanos? zone).isSome = false := by
        rw [isSome_utcNanos?, ← isSome_instant? v zone, hinstant]
        rfl
      rw [hn] at hnone
      cases hnone
    | some outcome =>
      cases outcome with
      | error e => exact absurd (instant?_eq_error hinstant ▸ hinstant) h
      | ok m => exact onTimeline_of_instant? hinstant

theorem leaveCalendar_iff (hkind : a.kind = b.kind) :
    LeaveCalendar a b zone ↔ ¬ (a.OnTimeline zone ∧ b.OnTimeline zone) := by
  rw [onTimeline_iff, onTimeline_iff, LeaveCalendar, and_iff_right hkind]
  tauto

/-- What a value stands for; binary floating point values stand for nothing of the kind. -/
def comparand? (zone : Timezone) : AtomicValue → Option Comparand
  | untypedAtomic s | string s | anyURI s => some (.text s)
  | boolean b => some (.truth b)
  | qname name => some (.name name.expandedName)
  | decimal d => some (.number d.toRat)
  | integer i => some (.number i.value)
  | float _ | double _ => none
  | duration d => some (.span d.yearMonth.months d.dayTime.seconds.toRat)
  | yearMonthDuration d => some (.number d.months)
  | dayTimeDuration d => some (.number d.seconds.toRat)
  | v => (v.utcNanos? zone).map fun n => .number n

theorem isSome_comparand? (hfloat : v.kind ≠ .float) (hdouble : v.kind ≠ .double) :
    (v.comparand? zone).isSome = true := by
  cases v
  case float => exact absurd rfl hfloat
  case double => exact absurd rfl hdouble
  all_goals rfl

theorem exists_relation_of_utcNanos? {p q : ℤ} (hkind : a.kind = b.kind)
    (ha : a.utcNanos? zone = some p) (hb : b.utcNanos? zone = some q)
    (htimeline : a.OnTimeline zone ∧ b.OnTimeline zone) :
    ∃ relation, relate a b zone = .ok (some relation) ∧
      relation.Decides (Comparand.number p = Comparand.number q) := by
  obtain ⟨m, hm, rfl⟩ := exists_instant? ha htimeline.1
  obtain ⟨n, hn, rfl⟩ := exists_instant? hb htimeline.2
  refine ⟨_, relate_of_instants hkind hm hn, ?_⟩
  rw [Comparand.number.injEq, Int.cast_inj]
  exact Relation.decides_ofInstants

theorem exists_relation_of_comparand? (hkind : a.kind = b.kind) (ha : a.comparand? zone = some x)
    (hb : b.comparand? zone = some y) (htimeline : a.OnTimeline zone ∧ b.OnTimeline zone) :
    ∃ relation, relate a b zone = .ok (some relation) ∧ relation.Decides (x = y) := by
  cases a with
  | untypedAtomic _ | string _ | anyURI _ =>
    cases b <;> cases hkind
    cases ha
    cases hb
    exact ⟨_, rfl, compareTexts_eq_eq_iff.trans (by simp)⟩
  | boolean _ =>
    cases b <;> cases hkind
    cases ha
    cases hb
    exact ⟨_, rfl, compareTruths_eq_eq_iff.trans (by simp)⟩
  | qname _ =>
    cases b <;> cases hkind
    cases ha
    cases hb
    exact ⟨_, rfl, beq_iff_eq.trans (by simp)⟩
  | decimal _ | dayTimeDuration _ =>
    cases b <;> cases hkind
    cases ha
    cases hb
    exact ⟨_, rfl, Rounding.compareExact_eq_eq_iff.trans (by simp)⟩
  | integer i =>
    cases b with
    | integer j =>
      cases ha
      cases hb
      exact ⟨_, rfl, compareIntegers_eq_eq_iff.trans (by simp)⟩
    | _ => cases hkind
  | yearMonthDuration _ =>
    cases b <;> cases hkind
    cases ha
    cases hb
    exact ⟨_, rfl, compareIntegers_eq_eq_iff.trans (by simp)⟩
  | duration _ =>
    cases b <;> cases hkind
    cases ha
    cases hb
    exact ⟨_, rfl, Duration.equalValue_iff.trans (by simp)⟩
  | float _ | double _ => cases ha
  | dateTime _ | date _ | time _ | gYearMonth _ | gYear _ | gMonthDay _ | gDay _ | gMonth _ =>
    cases b <;> cases hkind
    cases ha
    cases hb
    exact exists_relation_of_utcNanos? rfl rfl rfl htimeline

theorem exists_relation_of_kind_eq (hfloat : a.kind ≠ .float) (hdouble : a.kind ≠ .double)
    (hkind : a.kind = b.kind) (htimeline : a.OnTimeline zone ∧ b.OnTimeline zone) :
    ∃ relation, relate a b zone = .ok (some relation) ∧
      relation.Decides (a.comparand? zone = b.comparand? zone) := by
  have hleft : (a.comparand? zone).isSome = true := isSome_comparand? hfloat hdouble
  have hright : (b.comparand? zone).isSome = true :=
    isSome_comparand? (hkind ▸ hfloat) (hkind ▸ hdouble)
  obtain ⟨x, hx⟩ := Option.isSome_iff_exists.mp hleft
  obtain ⟨y, hy⟩ := Option.isSome_iff_exists.mp hright
  rw [hx, hy, Option.some.injEq]
  exact exists_relation_of_comparand? hkind hx hy htimeline

/-! ## The operators on values of one type -/

/-- Values of one type are equal when they stand for the same. -/
theorem compare_eq_of_kind_eq (hfloat : a.kind ≠ .float) (hdouble : a.kind ≠ .double)
    (hkind : a.kind = b.kind) (htimeline : a.OnTimeline zone ∧ b.OnTimeline zone) :
    a.compare .eq b zone = .ok (decide (a.comparand? zone = b.comparand? zone)) := by
  obtain ⟨relation, hrelate, hdecides⟩ :=
    exists_relation_of_kind_eq hfloat hdouble hkind htimeline
  have hanswer := congrFun (compare_of_relate hrelate) .eq
  rw [hanswer, ComparisonOperator.answerTo, Option.bind_some, hdecides.answer?_eq]
  rfl

/-- Exactly one of the three operators holds, and the two others answer that they do not. -/
def Trichotomous (a b : AtomicValue) (zone : Timezone) : Prop :=
  ∃ order : Ordering, a.compare .lt b zone = .ok (order == .lt) ∧
    a.compare .eq b zone = .ok (order == .eq) ∧ a.compare .gt b zone = .ok (order == .gt)

theorem trichotomous_of_kind_eq (hfloat : a.kind ≠ .float) (hdouble : a.kind ≠ .double)
    (hkind : a.kind = b.kind) (hordered : a.kind.order? b.kind = some true)
    (htimeline : a.OnTimeline zone ∧ b.OnTimeline zone) : Trichotomous a b zone := by
  obtain ⟨relation, hrelate, hdecides⟩ :=
    exists_relation_of_kind_eq hfloat hdouble hkind htimeline
  obtain ⟨relation?, hrelation⟩ := exists_isRelation_of_not_leaveCalendar
    (mt (leaveCalendar_iff hkind).mp (not_not_intro htimeline))
  obtain rfl := Except.ok.inj (hrelate.symm.trans hrelation.relate)
  have hhasOrder : relation.hasOrder = true := by
    have horder := hrelation.hasOrder
    rw [hordered, Option.map_some] at horder
    exact Option.some.inj horder
  obtain ⟨order, rfl⟩ := hdecides.exists_ordered hhasOrder
  refine ⟨order, ?_, ?_, ?_⟩
  all_goals exact congrFun (compare_of_relate hrelate) _

/-- The values of a type that are on the timeline, if that matters for the type. -/
abbrev OfKind (kind : AtomicKind) (zone : Timezone) : Type :=
  { v : AtomicValue // v.kind = kind ∧ v.OnTimeline zone }

theorem equivalence_of_kind (hfloat : kind ≠ .float) (hdouble : kind ≠ .double)
    (zone : Timezone) :
    Equivalence fun a b : OfKind kind zone => a.1.compare .eq b.1 zone = .ok true := by
  have heq (a b : OfKind kind zone) : a.1.compare .eq b.1 zone = .ok true ↔
      a.1.comparand? zone = b.1.comparand? zone := by
    obtain ⟨a, rfl, ha⟩ := a
    obtain ⟨b, hb, hb'⟩ := b
    rw [compare_eq_of_kind_eq hfloat hdouble hb.symm ⟨ha, hb'⟩, Except.ok.injEq,
      decide_eq_true_iff]
  simp only [heq]
  exact ⟨fun _ => rfl, Eq.symm, Eq.trans⟩

theorem order?_self_eq_some_true_iff :
    kind.order? kind = some true ↔
      kind.isNumeric = true ∨ kind.isStringLike = true ∨ kind.isOrdered = true := by
  cases kind <;> simp [AtomicKind.order?, AtomicKind.isNumeric, AtomicKind.isStringLike,
    AtomicKind.isOrdered]

/-- Within one type other than the binary floating point types, two values that are on the timeline
compare without failing, and any others fail alike; equality is an equivalence, and where the type
has an order, exactly one of less, equal and greater holds. -/
theorem equality_within_type (hfloat : kind ≠ .float) (hdouble : kind ≠ .double)
    (zone : Timezone) :
    (∀ a b : AtomicValue, a.kind = kind → b.kind = kind →
        if a.OnTimeline zone ∧ b.OnTimeline zone then ∃ equal, a.compare .eq b zone = .ok equal
        else ∀ op, a.compare op b zone = .error .dateTimeOutOfRange) ∧
      (Equivalence fun a b : OfKind kind zone => a.1.compare .eq b.1 zone = .ok true) ∧
      (kind.isNumeric = true ∨ kind.isStringLike = true ∨ kind.isOrdered = true →
        ∀ a b : OfKind kind zone, Trichotomous a.1 b.1 zone) := by
  refine ⟨?_, equivalence_of_kind hfloat hdouble zone, ?_⟩
  · rintro a b rfl hb
    split
    · next htimeline => exact ⟨_, compare_eq_of_kind_eq hfloat hdouble hb.symm htimeline⟩
    · next htimeline =>
      intro op
      exact congrFun (compare_of_leaveCalendar ((leaveCalendar_iff hb.symm).mpr htimeline)) op
  · rintro hordered ⟨a, rfl, ha⟩ ⟨b, hb, hb'⟩
    apply trichotomous_of_kind_eq hfloat hdouble hb.symm _ ⟨ha, hb'⟩
    rw [hb]
    exact order?_self_eq_some_true_iff.mpr hordered

/-- The first local moment of the calendar is on the timeline west of UTC, where it equals an
explicit UTC moment. -/
theorem equality_within_type_firstMoment :
    let zone : Timezone := ⟨-50400, by decide⟩
    let clock : TimeOfDay := ⟨50400000000000, by decide⟩
    let unzoned : AtomicValue := dateTime ⟨.first, none⟩
    let zoned : AtomicValue := dateTime ⟨⟨.first, clock⟩, some .utc⟩
    AtomicKind.dateTime ≠ .float ∧ AtomicKind.dateTime ≠ .double ∧
      (unzoned.OnTimeline zone ∧ zoned.OnTimeline zone) ∧
      (∃ equal, unzoned.compare .eq zoned zone = .ok equal) ∧ Trichotomous unzoned zoned zone ∧
      unzoned.compare .eq zoned zone = .ok true := by
  intro zone clock unzoned zoned
  have htimeline : unzoned.OnTimeline zone ∧ zoned.OnTimeline zone := by decide +kernel
  have hfloat : AtomicKind.dateTime ≠ .float := by decide
  have hdouble : AtomicKind.dateTime ≠ .double := by decide
  obtain ⟨hcompare, _, horder⟩ := equality_within_type hfloat hdouble zone
  have hdefined := hcompare unzoned zoned rfl rfl
  rw [if_pos htimeline] at hdefined
  exact ⟨hfloat, hdouble, htimeline, hdefined,
    horder (by decide) ⟨unzoned, rfl, htimeline.1⟩ ⟨zoned, rfl, htimeline.2⟩, by decide +kernel⟩

/-- East of UTC the first day of the calendar has no instant and equals nothing, not even itself. -/
theorem equality_within_type_beyondCalendar :
    ¬ ∀ (kind : AtomicKind) (given : String) (v : AtomicValue) (zone : Timezone),
      kind ≠ .float → kind ≠ .double → zone.Lexical → read kind given .empty = .ok v →
        v.compare .eq v zone = .ok true := by
  intro h
  let first : AtomicValue := date ⟨.first, some ⟨50400, by decide⟩⟩
  have hread : read .date "-262143-01-01+14:00" .empty = .ok first := by decide +kernel
  have hequal := h .date _ first .utc (by decide) (by decide) (by decide) hread
  have hfails : first.compare .eq first .utc = .error .dateTimeOutOfRange := by decide +kernel
  cases hequal.symm.trans hfails

end AtomicValue

end XPathValues

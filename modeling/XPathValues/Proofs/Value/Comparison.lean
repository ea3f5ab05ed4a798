import Mathlib.Tactic
import XPathValues.Proofs.Value.Relation

/-!
# Coherent comparison

The six operators answer as one relation of the two values does: exchanged operands answer the
converse operators alike, an equality is the negation of the inequality, and the ordering operators
are put together from the strict ones and the equality. They are undefined for the same types, or
fail together on calendar values that have no instant.
-/

namespace XPathValues

def FailTogether (outcomes : List (Except Error Bool)) : Prop :=
  ∃ code, ∀ outcome ∈ outcomes, outcome.mapError Error.code = .error code

theorem failTogether_of_forall {outcomes : List (Except Error Bool)} (code : ErrorCode)
    (h : ∀ outcome ∈ outcomes, ∃ e, outcome = .error e ∧ e.code = code) : FailTogether outcomes := by
  refine ⟨code, fun outcome houtcome => ?_⟩
  obtain ⟨e, rfl, hcode⟩ := h outcome houtcome
  exact congrArg Except.error hcode

namespace ComparisonOperator

/-- What the operators answer on two operands, and on the operands exchanged. -/
structure Coherent (answer exchanged : ComparisonOperator → Except Error Bool) : Prop where
  mirrored : ∀ op, (exchanged op.converse).mapError Error.code = (answer op).mapError Error.code
  equality : FailTogether [answer .eq, answer .ne] ∨
    ∃ equal, answer .eq = .ok equal ∧ answer .ne = .ok !equal
  order : FailTogether [answer .lt, answer .le, answer .gt, answer .ge] ∨
    ∃ equal less greater, answer .eq = .ok equal ∧ answer .lt = .ok less ∧
      answer .gt = .ok greater ∧ answer .le = .ok (less || equal) ∧
      answer .ge = .ok (greater || equal)

theorem coherent_of_failure (e : Error) : Coherent (fun _ => .error e) fun _ => .error e where
  mirrored _ := rfl
  equality := Or.inl (failTogether_of_forall e.code (by simp))
  order := Or.inl (failTogether_of_forall e.code (by simp))

/-- The answer of an operator to a relation, or the failure where there is none. -/
def answerTo (relation? : Option Relation) (failure : ComparisonOperator → Error)
    (op : ComparisonOperator) : Except Error Bool :=
  orError (failure op) (relation?.bind fun relation => relation.answer? op)

theorem answerTo_swap_converse (relation? : Option Relation)
    (failure : ComparisonOperator → Error) (op : ComparisonOperator) :
    answerTo (relation?.map .swap) failure op.converse =
      answerTo relation? (fun op => failure op.converse) op := by
  unfold answerTo
  cases relation? with
  | none => rfl
  | some relation =>
    rw [Option.map_some, Option.bind_some, Option.bind_some, relation.answer?_swap]

theorem coherent_answerTo (code : ErrorCode) (relation? : Option Relation)
    {failure failure' : ComparisonOperator → Error} (hfailure : ∀ op, (failure op).code = code)
    (hfailure' : ∀ op, (failure' op).code = code) :
    Coherent (answerTo relation? failure) (answerTo (relation?.map .swap) failure') where
  mirrored op := by
    rw [answerTo_swap_converse, answerTo, answerTo]
    cases relation?.bind fun relation => relation.answer? op with
    | some answer => rfl
    | none => exact congrArg Except.error ((hfailure' _).trans (hfailure op).symm)
  equality := by
    cases relation? with
    | none =>
      exact Or.inl (failTogether_of_forall code (by simp [answerTo, orError, hfailure]))
    | some relation => cases relation <;> exact Or.inr ⟨_, rfl, rfl⟩
  order := by
    cases relation? with
    | none =>
      exact Or.inl (failTogether_of_forall code (by simp [answerTo, orError, hfailure]))
    | some relation =>
      cases relation with
      | ordered order => cases order <;> exact Or.inr ⟨_, _, _, rfl, rfl, rfl, rfl, rfl⟩
      | unordered => exact Or.inr ⟨_, _, _, rfl, rfl, rfl, rfl, rfl⟩
      | equality equal =>
        exact Or.inl (failTogether_of_forall code
          (by simp [answerTo, orError, Relation.answer?, hfailure]))

end ComparisonOperator

namespace AtomicValue

open ComparisonOperator

variable {a b v : AtomicValue} {zone : Timezone}

/-- Two calendar values of one type, of which one has no instant in the calendar. -/
def LeaveCalendar (a b : AtomicValue) (zone : Timezone) : Prop :=
  a.kind = b.kind ∧
    (a.instant? zone = some (.error .dateTimeOutOfRange) ∨
      b.instant? zone = some (.error .dateTimeOutOfRange))

theorem leaveCalendar_comm : LeaveCalendar a b zone ↔ LeaveCalendar b a zone := by
  unfold LeaveCalendar
  rw [eq_comm, or_comm]

theorem LeaveCalendar.exists_instants (h : LeaveCalendar a b zone) :
    ∃ x y, a.instant? zone = some x ∧ b.instant? zone = some y ∧
      ∀ {α : Type} (f : Moment → Moment → Except Error α),
        (do let m ← x; let n ← y; f m n) = .error .dateTimeOutOfRange := by
  obtain ⟨hkind, hfail⟩ := h
  have hsome : (a.instant? zone).isSome = (b.instant? zone).isSome := by
    rw [isSome_instant?, isSome_instant?, hkind]
  rcases hfail with hx | hy
  · obtain ⟨y, hy⟩ := Option.isSome_iff_exists.mp (hsome.symm.trans (by rw [hx]; rfl))
    exact ⟨_, y, hx, hy, fun _ => rfl⟩
  · obtain ⟨x, hx⟩ := Option.isSome_iff_exists.mp (hsome.trans (by rw [hy]; rfl))
    refine ⟨x, _, hx, hy, fun _ => ?_⟩
    cases x with
    | error e => exact congrArg Except.error (instant?_eq_error hx)
    | ok x => rfl

theorem relate_of_leaveCalendar (h : LeaveCalendar a b zone) :
    relate a b zone = .error .dateTimeOutOfRange := by
  obtain ⟨x, y, hx, hy, hfail⟩ := h.exists_instants
  rw [relate_of_instants h.1 hx hy]
  exact hfail _

/-- Only the calendar keeps two values from being related as their types are. -/
theorem exists_isRelation_of_not_leaveCalendar (h : ¬ LeaveCalendar a b zone) :
    ∃ relation?, IsRelation a b zone relation? := by
  by_cases hcalendar : a.kind = b.kind ∧ a.kind.isCalendar = true
  · obtain ⟨hkind, hcalendar⟩ := hcalendar
    obtain ⟨x, hx⟩ := Option.isSome_iff_exists.mp ((isSome_instant? a zone).trans hcalendar)
    obtain ⟨y, hy⟩ := Option.isSome_iff_exists.mp
      ((isSome_instant? b zone).trans (hkind ▸ hcalendar))
    cases x with
    | error e => exact absurd ⟨hkind, Or.inl (instant?_eq_error hx ▸ hx)⟩ h
    | ok x =>
      cases y with
      | error e => exact absurd ⟨hkind, Or.inr (instant?_eq_error hy ▸ hy)⟩ h
      | ok y => exact ⟨_, isRelation_of_instants hkind hx hy⟩
  · exact exists_isRelation hcalendar

/-! ## The two comparisons -/

theorem compare_of_relate {relation? : Option Relation} (h : relate a b zone = .ok relation?) :
    (fun op => a.compare op b zone) = answerTo relation? (.incomparable · a.kind b.kind) := by
  funext op
  unfold compare answerTo
  rw [h]
  simp only [bind, Except.bind]
  split
  · next hanswer => rw [hanswer]; rfl
  · next hanswer => rw [hanswer]; rfl

theorem compare_of_leaveCalendar (h : LeaveCalendar a b zone) :
    (fun op => a.compare op b zone) = fun _ => .error .dateTimeOutOfRange := by
  funext op
  unfold compare
  rw [relate_of_leaveCalendar h]
  rfl

theorem coherent_compare (a b : AtomicValue) (zone : Timezone) :
    Coherent (fun op => a.compare op b zone) fun op => b.compare op a zone := by
  by_cases h : LeaveCalendar a b zone
  · rw [compare_of_leaveCalendar h, compare_of_leaveCalendar (leaveCalendar_comm.mp h)]
    exact coherent_of_failure _
  · obtain ⟨relation?, hrelation⟩ := exists_isRelation_of_not_leaveCalendar h
    rw [compare_of_relate hrelation.relate, compare_of_relate hrelation.exchanged]
    exact coherent_answerTo .XPTY0004 relation? (fun _ => rfl) fun _ => rfl

theorem typedLike_of_typed (h : v.isUntyped = true → b.isUntyped = true) :
    v.typedLike b = .ok v := by
  unfold typedLike
  rw [if_neg]
  cases hv : v.isUntyped with
  | false => simp
  | true => simp [h hv]

/-- A general comparison is one of values that take their type from each other, in whichever
direction, or it fails because one of them cannot. -/
theorem compareGeneral_cases (a b : AtomicValue) (zone : Timezone) :
    (∃ e, ∀ op, a.compareGeneral op b zone = .error e ∧ b.compareGeneral op a zone = .error e) ∨
      ∃ x y : AtomicValue, ∀ op, a.compareGeneral op b zone = x.compare op y zone ∧
        b.compareGeneral op a zone = y.compare op x zone := by
  -- Two untyped values stay untyped, so that at most one of the two is cast.
  have htyped : a.typedLike b = .ok a ∨ b.typedLike a = .ok b := by
    cases ha : a.isUntyped with
    | false => exact Or.inl (typedLike_of_typed fun h => absurd h (by simp [ha]))
    | true => exact Or.inr (typedLike_of_typed fun _ => ha)
  unfold compareGeneral
  rcases htyped with ha | hb
  · rw [ha]
    cases b.typedLike a with
    | error e => exact Or.inl ⟨e, fun _ => ⟨rfl, rfl⟩⟩
    | ok y => exact Or.inr ⟨a, y, fun _ => ⟨rfl, rfl⟩⟩
  · rw [hb]
    cases a.typedLike b with
    | error e => exact Or.inl ⟨e, fun _ => ⟨rfl, rfl⟩⟩
    | ok x => exact Or.inr ⟨x, b, fun _ => ⟨rfl, rfl⟩⟩

theorem coherent_compareGeneral (a b : AtomicValue) (zone : Timezone) :
    Coherent (fun op => a.compareGeneral op b zone) fun op => b.compareGeneral op a zone := by
  rcases compareGeneral_cases a b zone with ⟨e, hfail⟩ | ⟨x, y, hcompare⟩
  · rw [funext fun op => (hfail op).1, funext fun op => (hfail op).2]
    exact coherent_of_failure e
  · rw [funext fun op => (hcompare op).1, funext fun op => (hcompare op).2]
    exact coherent_compare x y zone

/-! ## Undefined comparisons -/

theorem raisesTypeError_compare_iff (h : ¬ LeaveCalendar a b zone) (op : ComparisonOperator) :
    RaisesTypeError (a.compare op b zone) ↔ a.kind.isComparable b.kind op.isEquality = false := by
  obtain ⟨relation?, hrelation⟩ := exists_isRelation_of_not_leaveCalendar h
  have hdefined : (relation?.bind fun relation => relation.answer? op).isSome =
      a.kind.isComparable b.kind op.isEquality := by
    rw [AtomicKind.isComparable, ← hrelation.hasOrder]
    cases relation? with
    | none => rfl
    | some relation => exact relation.isSome_answer? op
  rw [congrFun (compare_of_relate hrelation.relate) op, answerTo, ← hdefined]
  cases relation?.bind fun relation => relation.answer? op with
  | none => exact iff_of_true ⟨_, rfl, rfl⟩ rfl
  | some answer =>
    refine iff_of_false ?_ Bool.noConfusion
    rintro ⟨e, herror, _⟩
    cases herror

/-- Value comparison and general comparison are coherent. A value comparison is undefined for two
types and an operator, whatever the values are, but two calendar values of which one has no instant
fail for that reason first. -/
theorem comparison_coherent (a b : AtomicValue) (zone : Timezone) :
    Coherent (fun op => a.compare op b zone) (fun op => b.compare op a zone) ∧
      Coherent (fun op => a.compareGeneral op b zone) (fun op => b.compareGeneral op a zone) ∧
      ((LeaveCalendar a b zone ∧ ∀ op, a.compare op b zone = .error .dateTimeOutOfRange) ∨
        (¬ LeaveCalendar a b zone ∧ ∀ op, RaisesTypeError (a.compare op b zone) ↔
          a.kind.isComparable b.kind op.isEquality = false)) := by
  refine ⟨coherent_compare a b zone, coherent_compareGeneral a b zone, ?_⟩
  by_cases h : LeaveCalendar a b zone
  · exact Or.inl ⟨h, fun op => congrFun (compare_of_leaveCalendar h) op⟩
  · exact Or.inr ⟨h, raisesTypeError_compare_iff h⟩

/-- Two years have no order, but where the first year of the calendar is east of UTC, that is not
what the comparison reports. -/
theorem raisesTypeError_not_determined_by_kinds :
    ¬ ∀ (a a' b b' : AtomicValue) (zone : Timezone) (op : ComparisonOperator),
      a.kind = a'.kind → b.kind = b'.kind →
        (RaisesTypeError (a.compare op b zone) ↔ RaisesTypeError (a'.compare op b' zone)) := by
  intro h
  let first : AtomicValue := gYear ⟨⟨-262143, by decide⟩, some ⟨50400, by decide⟩⟩
  let year : AtomicValue := gYear ⟨⟨2000, by decide⟩, none⟩
  have hyears : year.compare .lt year .utc = .error (.incomparable .lt .gYear .gYear) := by
    decide +kernel
  have hfirst : first.compare .lt year .utc = .error .dateTimeOutOfRange := by
    decide +kernel
  obtain ⟨e, he, hcode⟩ := (h year first year year .utc .lt rfl rfl).mp ⟨_, hyears, rfl⟩
  obtain rfl := Except.error.inj (hfirst.symm.trans he)
  cases hcode

end AtomicValue

end XPathValues

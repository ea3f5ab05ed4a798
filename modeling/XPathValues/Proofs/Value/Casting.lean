import Mathlib.Tactic
import XPathValues.Proofs.Value.Failure
import XPathValues.Proofs.Value.Provenance

/-!
# What a cast gives

The table of rules decides whether a cast is allowed and which conversion carries it out. The
conversion that the table selects always applies to the value at hand: it gives a value of the type
that was asked for, or fails for a reason that lies in the value.
-/

namespace XPathValues

namespace AtomicKind

variable {source target : AtomicKind}

theorem eq_of_castRule_identity (h : castRule source target = .identity) :
    source = target ∨ (source.isInteger = true ∧ target.isInteger = true) := by
  rw [castRule_eq] at h
  split_ifs at h with hsame
  exact hsame

theorem target_of_castRule_toText (h : castRule source target = .toText) :
    target = .string ∨ target = .untypedAtomic := by
  rw [castRule_eq] at h
  split_ifs at h with _ htext
  exact htext

theorem isNumericOrBoolean_of_castRule (h : castRule source target = .numeric) :
    source.isNumericOrBoolean = true ∧ target.isNumericOrBoolean = true := by
  rw [castRule_eq] at h
  split_ifs at h with _ _ _ hnumeric
  exact hnumeric

theorem isDuration_of_castRule (h : castRule source target = .duration) :
    source.isDuration = true ∧ target.isDuration = true := by
  rw [castRule_eq] at h
  split_ifs at h with _ _ _ _ hduration
  exact hduration

theorem projectsTo_of_castRule (h : castRule source target = .project) :
    source.projectsTo target = true := by
  rw [castRule_eq] at h
  split_ifs at h with _ _ _ _ _ hproject
  exact hproject

end AtomicKind

namespace AtomicValue

variable {v w : AtomicValue} {source target : AtomicKind} {bindings : Bindings} {e : Error}

/-! ## The conversion that a rule selects -/

theorem cast_of_toText (h : castRule v.kind target = .toText) :
    v.cast target bindings =
      .ok (if target = .untypedAtomic then untypedAtomic v.text else string v.text) := by
  simp only [cast, convert, h]
  refine bind_restrict fun w hw => ?_
  obtain rfl := Except.ok.inj hw
  rcases AtomicKind.target_of_castRule_toText h with rfl | rfl <;> rfl

/-- The number in a value; the two truths count as one and zero. -/
def asCastNumber? : AtomicValue → Option Numeric
  | boolean b => some (.integer (if b then 1 else 0))
  | v => v.asNumeric?

/-- What a number becomes, whatever type it comes from. -/
def castNumber (x : Numeric) (source : AtomicKind) : AtomicKind → Except Error AtomicValue
  | .boolean => .ok (boolean x.isTrue)
  | .double => .ok (double x.toDouble)
  | .float => .ok (float x.toSingle)
  | .decimal => x.toDecimal.map decimal
  | .integer kind => (x.toInteger (.integer kind) >>= Integer.ofStored kind).map integer
  | target => .error (.illegalCast source target)

theorem kind_castNumber {x : Numeric} (h : castNumber x source target = .ok w) :
    w.kind = target := by
  unfold castNumber at h
  split at h
  · cases h
    rfl
  · cases h
    rfl
  · cases h
    rfl
  · obtain ⟨d, _, rfl⟩ := exists_of_map_eq_ok h
    rfl
  · obtain ⟨j, hj, rfl⟩ := exists_of_map_eq_ok h
    obtain ⟨i, _, hstored⟩ := exists_of_bind_eq_ok hj
    exact congrArg AtomicKind.integer (Integer.ofStored_eq_ok_iff.mp hstored).1
  · cases h

theorem kind_castDuration {d : Duration} (h : castDuration d source target = .ok w) :
    w.kind = target := by
  unfold castDuration at h
  split at h <;> cases h <;> rfl

theorem kind_project {x : DateTime} (h : project x source target = .ok w) : w.kind = target := by
  unfold project at h
  split at h <;> cases h <;> rfl

theorem isSome_asCastNumber? (v : AtomicValue) :
    v.asCastNumber?.isSome = v.kind.isNumericOrBoolean := by
  cases v <;> rfl

theorem isSome_asDuration? (v : AtomicValue) : v.asDuration?.isSome = v.kind.isDuration := by
  cases v <;> rfl

theorem isSome_asDateTime?_of_projectsTo (h : v.kind.projectsTo target = true) :
    v.asDateTime?.isSome = true := by
  cases v <;> first | rfl | cases h

theorem convertNumeric_of_ne_numeric (h : castRule v.kind target ≠ .numeric) :
    v.convertNumeric target = .error (.illegalCast v.kind target) := by
  cases v <;> cases target <;> first | rfl | exact absurd rfl h

theorem convertNumeric_integer {x : Numeric} {k : IntegerKind}
    (hrule : castRule v.kind (.integer k) = .numeric) (hx : v.asCastNumber? = some x) :
    v.convertNumeric (.integer k) = (x.toInteger (.integer k)).map integer := by
  cases v <;> cases hx
  case boolean b => cases b <;> rfl
  case integer i => cases hrule
  all_goals rfl

/-- The table keeps a type from meeting itself, for which there is no row. -/
theorem convertNumeric_of_not_isInteger {x : Numeric} (htarget : target.isInteger = false)
    (hrule : castRule v.kind target = .numeric) (hx : v.asCastNumber? = some x) :
    v.convertNumeric target = castNumber x v.kind target := by
  have hinteger : ∀ k, target ≠ .integer k := by
    rintro k rfl
    cases htarget
  cases v <;> cases hx
  case boolean b =>
    cases target
    case integer k => exact absurd rfl (hinteger k)
    case decimal => cases b <;> rfl
    all_goals first | rfl | cases hrule
  all_goals
    cases target
    case integer k => exact absurd rfl (hinteger k)
    all_goals first | rfl | cases hrule

theorem exists_asCastNumber? (h : castRule v.kind target = .numeric) :
    ∃ x, v.asCastNumber? = some x := by
  rw [← Option.isSome_iff_exists, isSome_asCastNumber?]
  exact (AtomicKind.isNumericOrBoolean_of_castRule h).1

theorem cast_of_numeric (bindings : Bindings) (h : castRule v.kind target = .numeric) :
    ∃ x, v.asCastNumber? = some x ∧ v.cast target bindings = castNumber x v.kind target := by
  obtain ⟨x, hx⟩ := exists_asCastNumber? h
  refine ⟨x, hx, ?_⟩
  simp only [cast, convert, h]
  cases htarget : target.isInteger with
  | false =>
    rw [convertNumeric_of_not_isInteger htarget h hx]
    exact bind_restrict fun _ => kind_castNumber
  | true =>
    cases target <;> cases htarget
    rw [convertNumeric_integer h hx, castNumber]
    cases x.toInteger _ with
    | error e => rfl
    | ok i => exact restrict_integer i _

theorem cast_of_duration (bindings : Bindings) (h : castRule v.kind target = .duration) :
    ∃ d, v.asDuration? = some d ∧ v.cast target bindings = castDuration d v.kind target := by
  have hsome : v.asDuration?.isSome = true := by
    rw [isSome_asDuration?]
    exact (AtomicKind.isDuration_of_castRule h).1
  obtain ⟨d, hd⟩ := Option.isSome_iff_exists.mp hsome
  refine ⟨d, hd, ?_⟩
  simp only [cast, convert, h, hd, Option.elim_some]
  exact bind_restrict fun _ => kind_castDuration

theorem cast_of_project (bindings : Bindings) (h : castRule v.kind target = .project) :
    ∃ x, v.asDateTime? = some x ∧ v.cast target bindings = project x v.kind target := by
  have hsome := isSome_asDateTime?_of_projectsTo (AtomicKind.projectsTo_of_castRule h)
  obtain ⟨x, hx⟩ := Option.isSome_iff_exists.mp hsome
  refine ⟨x, hx, ?_⟩
  simp only [cast, convert, h, hx, Option.elim_some]
  exact bind_restrict fun _ => kind_project

/-! ## The type of the result -/

theorem kind_restrict (hrule : castRule v.kind target = .identity) (h : v.restrict target = .ok w) :
    w.kind = target := by
  rcases AtomicKind.eq_of_castRule_identity hrule with hsame | ⟨hsource, htarget⟩
  · rw [restrict_of_kind_eq hsame] at h
    obtain rfl := Except.ok.inj h
    exact hsame
  · cases v <;> cases hsource
    cases target <;> cases htarget
    rw [restrict_integer] at h
    obtain ⟨j, hj, rfl⟩ := exists_of_map_eq_ok h
    exact congrArg AtomicKind.integer (Integer.ofStored_eq_ok_iff.mp hj).1

/-- Whichever rule carries it out, a cast gives a value of the type that was asked for. -/
theorem kind_cast (h : v.cast target bindings = .ok w) : w.kind = target := by
  cases hrule : castRule v.kind target with
  | forbidden =>
    rw [cast_of_forbidden hrule] at h
    cases h
  | identity =>
    rw [cast_of_identity hrule] at h
    exact kind_restrict hrule h
  | toText =>
    rw [cast_of_toText hrule] at h
    obtain rfl := Except.ok.inj h
    rcases AtomicKind.target_of_castRule_toText hrule with rfl | rfl <;> rfl
  | parse =>
    rw [cast_of_parse hrule] at h
    exact kind_read h
  | numeric =>
    obtain ⟨x, _, hcast⟩ := cast_of_numeric bindings hrule
    exact kind_castNumber (hcast ▸ h)
  | duration =>
    obtain ⟨d, _, hcast⟩ := cast_of_duration bindings hrule
    exact kind_castDuration (hcast ▸ h)
  | project =>
    obtain ⟨x, _, hcast⟩ := cast_of_project bindings hrule
    exact kind_project (hcast ▸ h)

/-! ## What a permitted cast can fail on -/

theorem isOfValue_of_restrict (h : v.restrict target = .error e) : e.IsOfValue := by
  unfold restrict at h
  split at h
  · split at h
    · cases h
    · exact isOfValue_of_map (fun _ => Integer.isOfValue_of_ofStored) h
  · cases h

theorem isOfValue_of_castNumber {x : Numeric} (htarget : target.isNumericOrBoolean = true)
    (h : castNumber x source target = .error e) : e.IsOfValue := by
  unfold castNumber at h
  split at h
  · cases h
  · cases h
  · cases h
  · exact isOfValue_of_map (fun _ => Numeric.isOfValue_of_toDecimal) h
  · refine isOfValue_of_map (fun e he => ?_) h
    rcases eq_error_of_bind he with hinteger | ⟨i, _, hrange⟩
    · exact Numeric.isOfValue_of_toInteger hinteger
    · exact Integer.isOfValue_of_ofStored hrange
  · next hboolean hdouble hfloat hdecimal hinteger =>
    cases target <;> simp_all [AtomicKind.isNumericOrBoolean, AtomicKind.isNumeric]

theorem isOfValue_of_convertNumeric (hrule : castRule v.kind target = .numeric)
    (h : v.convertNumeric target = .error e) : e.IsOfValue := by
  obtain ⟨x, hx⟩ := exists_asCastNumber? hrule
  cases htarget : target.isInteger with
  | false =>
    rw [convertNumeric_of_not_isInteger htarget hrule hx] at h
    exact isOfValue_of_castNumber (AtomicKind.isNumericOrBoolean_of_castRule hrule).2 h
  | true =>
    cases target <;> cases htarget
    rw [convertNumeric_integer hrule hx] at h
    exact isOfValue_of_map (fun _ => Numeric.isOfValue_of_toInteger) h

/-- The conversion of numbers has a row exactly where the table asks for it. -/
theorem convertNumeric_iff :
    castRule v.kind target = .numeric ↔
      ∀ e, v.convertNumeric target = .error e → e.category ≠ .illegalCast := by
  constructor
  · exact fun hrule e h => (isOfValue_of_convertNumeric hrule h).category_ne rfl
  · intro h
    by_contra hrule
    exact h _ (convertNumeric_of_ne_numeric hrule) rfl

theorem exists_castDuration (htarget : target.isDuration = true) (d : Duration)
    (source : AtomicKind) : ∃ w, castDuration d source target = .ok w := by
  cases target <;> first | exact ⟨_, rfl⟩ | cases htarget

theorem exists_project (h : source.projectsTo target = true) (x : DateTime) :
    ∃ w, project x source target = .ok w := by
  cases target <;> first | exact ⟨_, rfl⟩ | (cases source <;> cases h)

/-- A permitted cast only fails for a reason that lies in the value. -/
theorem isOfValue_of_cast (hrule : castRule v.kind target ≠ .forbidden)
    (h : v.cast target bindings = .error e) : e.IsOfValue := by
  cases hcase : castRule v.kind target with
  | forbidden => exact absurd hcase hrule
  | identity =>
    rw [cast_of_identity hcase] at h
    exact isOfValue_of_restrict h
  | toText =>
    rw [cast_of_toText hcase] at h
    cases h
  | parse =>
    rw [cast_of_parse hcase] at h
    exact isOfValue_of_read h
  | numeric =>
    obtain ⟨x, _, hcast⟩ := cast_of_numeric bindings hcase
    exact isOfValue_of_castNumber (AtomicKind.isNumericOrBoolean_of_castRule hcase).2 (hcast ▸ h)
  | duration =>
    obtain ⟨d, _, hcast⟩ := cast_of_duration bindings hcase
    obtain ⟨w, hw⟩ := exists_castDuration (AtomicKind.isDuration_of_castRule hcase).2 d v.kind
    cases h.symm.trans (hcast.trans hw)
  | project =>
    obtain ⟨x, _, hcast⟩ := cast_of_project bindings hcase
    obtain ⟨w, hw⟩ := exists_project (AtomicKind.projectsTo_of_castRule hcase) x
    cases h.symm.trans (hcast.trans hw)

theorem isOfValue_or_illegalCast (h : v.cast target bindings = .error e) :
    e.IsOfValue ∨ e.category = .illegalCast := by
  by_cases hrule : castRule v.kind target = .forbidden
  · rw [cast_of_forbidden hrule] at h
    obtain rfl := Except.error.inj h
    exact Or.inr rfl
  · exact Or.inl (isOfValue_of_cast hrule h)

end AtomicValue

end XPathValues

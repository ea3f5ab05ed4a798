import Mathlib.Tactic
import XPathValues.Proofs.Context
import XPathValues.Proofs.Duration.Zone
import XPathValues.Proofs.Function.StandardForm
import XPathValues.Proofs.Value.WellFormed

/-!
# Values that operations and calls produce

Standard functions give well-formed values for well-formed arguments: the zones that they make come
from the context or from a duration that stands for a zone. So do all finite sequences of readings,
casts, operators and calls.
-/

namespace XPathValues

namespace Sequence

/-- All values that the items stand for are well formed. -/
def WellFormed (items : Sequence) : Prop :=
  ∀ v ∈ items.atomize, v.WellFormed

variable {items : Sequence} {v : AtomicValue}

theorem wellFormed_nil : WellFormed [] := fun _ hv => absurd hv List.not_mem_nil

theorem wellFormed_single (h : v.WellFormed) : (single v).WellFormed := by
  intro w hw
  obtain rfl : w = v := List.mem_singleton.mp hw
  exact h

theorem NoCalendar.wellFormed (h : items.NoCalendar) : items.WellFormed :=
  fun v hv => AtomicValue.wellFormed_of_not_isCalendar (h v hv)

theorem wellFormed_ofValues {values : List AtomicValue} (h : ∀ v ∈ values, v.WellFormed) :
    (ofValues values).WellFormed := by
  intro v hv
  rw [atomize_ofValues] at hv
  exact h v hv

theorem mem_atomize_of_firstValue? (h : items.firstValue? = some v) : v ∈ items.atomize := by
  unfold firstValue? at h
  split at h
  · obtain rfl := Option.some.inj h
    exact List.mem_cons_self
  · cases h

theorem exists_of_expect {α : Type} {kind : AtomicKind} {reader : AtomicValue → Option α} {x : α}
    (h : items.expect kind reader = .ok (some x)) : ∃ v ∈ items.atomize, reader v = some x := by
  unfold expect at h
  split at h
  · cases h
  · cases h
  · next v _ =>
    split at h
    · next y hy =>
      obtain rfl := Option.some.inj (Except.ok.inj h)
      exact ⟨v, List.mem_cons_self, hy⟩
    · cases h

end Sequence

/-! ## Converted arguments -/

namespace Signature

variable {signature : Signature} {position : Nat} {parameter : ParameterType} {bindings : Bindings}
  {v w : AtomicValue} {argument converted : Sequence} {arguments convertedArguments : List Sequence}
  {context : Context}

theorem wellFormed_of_convertValue (hv : v.WellFormed)
    (h : signature.convertValue position parameter bindings v = .ok w) : w.WellFormed := by
  cases htarget : parameter.item.castTarget? v.kind with
  | none =>
    rw [convertValue_of_accepts (ItemType.castTarget?_eq_none_iff.mp htarget)] at h
    obtain rfl := Except.ok.inj h
    exact hv
  | some target => exact hv.cast (cast_of_convertValue htarget h)

theorem wellFormed_of_convertArgument (hargument : argument.WellFormed)
    (h : signature.convertArgument position parameter bindings argument = .ok converted) :
    converted.WellFormed := by
  by_cases hitem : parameter.item = .anyItem
  · obtain ⟨_, rfl⟩ := (convertArgument_anyItem hitem).mp h
    exact hargument
  · obtain ⟨_, values, rfl, hvalues⟩ := (convertArgument_values hitem).mp h
    refine Sequence.wellFormed_ofValues (forall_mem_right_of_forall₂ hargument ?_)
    exact hvalues.imp fun v w hvalue hv => wellFormed_of_convertValue hv hvalue

theorem wellFormed_of_convertArguments (harguments : ∀ items ∈ arguments, items.WellFormed)
    (h : signature.convertArguments arguments context = .ok convertedArguments) :
    ∀ items ∈ convertedArguments, items.WellFormed := by
  have hzip : ∀ pair ∈ signature.parameters.zip arguments, pair.2.WellFormed :=
    fun pair hpair => harguments pair.2 (List.of_mem_zip hpair).2
  refine forall_mem_right_of_forall₂ hzip (convertFrom_forall₂ ?_ h)
  exact fun _ _ _ _ hconverted hargument => wellFormed_of_convertArgument hargument hconverted

end Signature

/-! ## Bodies -/

theorem DateTime.zone_of_ofDateAndTime {date : Date} {time : Time} {x : DateTime}
    (h : ofDateAndTime date time = .ok x) : x.zone = date.zone.or time.zone := by
  unfold ofDateAndTime at h
  split at h
  · next hdate _ =>
    split at h
    · obtain rfl := Except.ok.inj h
      rw [hdate]
      rfl
    · cases h
  · obtain rfl := Except.ok.inj h
    rfl

namespace AtomicValue

theorem eq_date_of_asDate? {v : AtomicValue} {x : Date} (h : v.asDate? = some x) : v = date x := by
  unfold asDate? at h
  split at h
  · exact congrArg date (Option.some.inj h)
  · cases h

theorem eq_time_of_asTime? {v : AtomicValue} {x : Time} (h : v.asTime? = some x) : v = time x := by
  unfold asTime? at h
  split at h
  · exact congrArg time (Option.some.inj h)
  · cases h

end AtomicValue

theorem NumericRule.not_isCalendar_of_apply {rule : NumericRule} {v w : AtomicValue}
    (h : rule.apply v = .ok w) : w.isCalendar = false := by
  unfold apply at h
  split at h
  · obtain ⟨_, _, rfl⟩ := exists_of_map_eq_ok h
    rfl
  · obtain ⟨_, _, rfl⟩ := exists_of_map_eq_ok h
    rfl
  · cases h
    rfl
  · cases h
    rfl
  · cases h

namespace FunctionBody

open AtomicValue

variable {context : Context} {arguments : List Sequence} {result : Sequence}

theorem wellFormed_argument (h : ∀ items ∈ arguments, items.WellFormed) (position : Nat) :
    (argument arguments position).WellFormed := by
  unfold argument
  cases hitems : arguments[position]? with
  | none => exact Sequence.wellFormed_nil
  | some items => exact h items (List.mem_of_getElem? hitems)

/-- Such a body gives nothing, or what its function gives for some value. -/
theorem exists_of_tryMap_eq_ok {α : Type} {kind : AtomicKind} {reader : AtomicValue → Option α}
    {f : Context → List Sequence → α → Except Error Sequence}
    (h : tryMap kind reader f context arguments = .ok result) :
    result = [] ∨ ∃ x, f context arguments x = .ok result := by
  obtain ⟨read, _, h⟩ := exists_of_bind_eq_ok h
  cases read with
  | none => exact Or.inl (Except.ok.inj h).symm
  | some x => exact Or.inr ⟨x, h⟩

theorem wellFormed_of_map (context : Context) {α : Type} {kind : AtomicKind}
    {reader : AtomicValue → Option α} {f : α → Sequence} (hpart : ∀ x, (f x).NoCalendar)
    (h : map kind reader f context arguments = .ok result) : result.WellFormed := by
  rcases exists_of_tryMap_eq_ok h with rfl | ⟨x, h⟩
  · exact Sequence.wellFormed_nil
  · obtain rfl := Except.ok.inj h
    exact (hpart x).wellFormed

theorem lexical_of_targetZone (hzone : context.implicitZone.Lexical) {target : Option Timezone}
    (h : targetZone context arguments = .ok target) : ∀ z, target = some z → z.Lexical := by
  rintro z rfl
  unfold targetZone at h
  split at h
  · obtain rfl := Option.some.inj (Except.ok.inj h)
    exact hzone
  · obtain ⟨read, _, h⟩ := exists_of_bind_eq_ok h
    cases read with
    | none => cases h
    | some d =>
      obtain ⟨zone, htimezone, hz⟩ := exists_of_map_eq_ok h
      obtain rfl := Option.some.inj hz
      rw [timezoneOf_eq_orError] at htimezone
      exact (DayTimeDuration.toTimezone?_eq_some_iff.mp (eq_some_of_orError htimezone)).1

/-- An adjustment gives well-formed values if it does so for every zone that a lexical form can
give. -/
theorem wellFormed_of_adjustment {α : Type} {kind : AtomicKind} {reader : AtomicValue → Option α}
    {f : α → Option Timezone → Except Error Sequence} (hzone : context.implicitZone.Lexical)
    (hf : ∀ x target adjusted, (∀ z, target = some z → z.Lexical) → f x target = .ok adjusted →
      adjusted.WellFormed)
    (h : tryMap kind reader (fun context arguments x => targetZone context arguments >>= f x)
      context arguments = .ok result) : result.WellFormed := by
  rcases exists_of_tryMap_eq_ok h with rfl | ⟨x, h⟩
  · exact Sequence.wellFormed_nil
  · obtain ⟨target, htarget, hadjusted⟩ := exists_of_bind_eq_ok h
    exact hf x target result (lexical_of_targetZone hzone htarget) hadjusted

theorem wellFormed_of_adjustDateTime (hzone : context.implicitZone.Lexical)
    (h : adjustDateTime context arguments = .ok result) : result.WellFormed := by
  refine wellFormed_of_adjustment hzone ?_ h
  intro x target adjusted htarget h
  obtain ⟨y, hy, h⟩ := exists_of_bind_eq_ok h
  obtain rfl := Except.ok.inj h
  refine Sequence.wellFormed_single (wellFormed_of_zone fun z hz => htarget z ?_)
  exact DateTime.zone_of_adjust hy ▸ hz

theorem wellFormed_of_adjustDate (hzone : context.implicitZone.Lexical)
    (h : adjustDate context arguments = .ok result) : result.WellFormed := by
  refine wellFormed_of_adjustment hzone ?_ h
  intro x target adjusted htarget h
  obtain ⟨y, hy, h⟩ := exists_of_bind_eq_ok h
  obtain rfl := Except.ok.inj h
  refine Sequence.wellFormed_single (wellFormed_of_zone fun z hz => htarget z ?_)
  exact Date.zone_of_adjust hy ▸ hz

theorem wellFormed_of_adjustTime (hzone : context.implicitZone.Lexical)
    (h : adjustTime context arguments = .ok result) : result.WellFormed := by
  refine wellFormed_of_adjustment hzone ?_ h
  intro x target adjusted htarget h
  obtain rfl := Except.ok.inj h
  refine Sequence.wellFormed_single (wellFormed_of_zone fun z hz => htarget z ?_)
  exact Time.zone_adjust x target ▸ hz

theorem wellFormed_of_dateTimeOfParts (context : Context)
    (harguments : ∀ items ∈ arguments, items.WellFormed)
    (h : dateTimeOfParts context arguments = .ok result) : result.WellFormed := by
  obtain ⟨date?, hdate, h⟩ := exists_of_bind_eq_ok h
  obtain ⟨time?, htime, h⟩ := exists_of_bind_eq_ok h
  split at h
  · obtain ⟨x, hx, h⟩ := exists_of_bind_eq_ok h
    obtain rfl := Except.ok.inj h
    obtain ⟨d, hd, hreadDate⟩ := Sequence.exists_of_expect hdate
    obtain ⟨t, ht, hreadTime⟩ := Sequence.exists_of_expect htime
    obtain rfl := eq_date_of_asDate? hreadDate
    obtain rfl := eq_time_of_asTime? hreadTime
    refine Sequence.wellFormed_single (wellFormed_of_zone fun z hz => ?_)
    have hor := (DateTime.zone_of_ofDateAndTime hx).symm.trans hz
    rcases Option.or_eq_some_iff.mp hor with hkept | ⟨_, hkept⟩
    · exact (wellFormed_argument harguments 0 _ hd).zone z hkept
    · exact (wellFormed_argument harguments 1 _ ht).zone z hkept
  · obtain rfl := Except.ok.inj h
    exact Sequence.wellFormed_nil

theorem wellFormed_of_construct {target : AtomicKind}
    (harguments : ∀ items ∈ arguments, items.WellFormed)
    (h : construct target context arguments = .ok result) : result.WellFormed := by
  unfold construct at h
  split at h
  · next v hv =>
    obtain ⟨w, hw, rfl⟩ := exists_of_map_eq_ok h
    have hmem := Sequence.mem_atomize_of_firstValue? hv
    exact Sequence.wellFormed_single ((wellFormed_argument harguments 0 v hmem).cast hw)
  · obtain rfl := Except.ok.inj h
    exact Sequence.wellFormed_nil

theorem wellFormed_of_numeric (context : Context) {rule : NumericRule}
    (h : numeric rule context arguments = .ok result) : result.WellFormed := by
  unfold numeric at h
  split at h
  · obtain ⟨w, hw, rfl⟩ := exists_of_map_eq_ok h
    exact (Sequence.noCalendar_single (NumericRule.not_isCalendar_of_apply hw)).wellFormed
  · obtain rfl := Except.ok.inj h
    exact Sequence.wellFormed_nil

theorem wellFormed_of_makeQName (context : Context)
    (h : makeQName context arguments = .ok result) : result.WellFormed := by
  unfold makeQName at h
  dsimp only at h
  split at h
  · cases h
  · split_ifs at h
    all_goals
      obtain rfl := Except.ok.inj h
      exact (Sequence.noCalendar_single rfl).wellFormed

theorem wellFormed_of_orderOfTexts (context : Context)
    (h : orderOfTexts context arguments = .ok result) : result.WellFormed := by
  unfold orderOfTexts at h
  split at h
  · obtain rfl := Except.ok.inj h
    unfold orderNumber
    split <;> exact (Sequence.noCalendar_single rfl).wellFormed
  · obtain rfl := Except.ok.inj h
    exact Sequence.wellFormed_nil

end FunctionBody

namespace Function

open FunctionBody

variable {function : Function} {context : Context} {arguments : List Sequence} {result : Sequence}

/-- In a context with well-formed zones, well-formed arguments give well-formed results. -/
theorem IsStandard.wellFormed_of_body (h : function.IsStandard)
    (hzone : context.implicitZone.Lexical) (hnow : context.now.zone.Lexical)
    (harguments : ∀ items ∈ arguments, items.WellFormed)
    (hbody : function.body context arguments = .ok result) : result.WellFormed := by
  have hcurrent : ∀ z, some context.now.zone = some z → z.Lexical :=
    fun z hz => Option.some.inj hz ▸ hnow
  cases h with
  | constructor kind => exact wellFormed_of_construct harguments hbody
  | component name _ hpart => exact wellFormed_of_map context hpart hbody
  | adjustDateTime _ => exact wellFormed_of_adjustDateTime hzone hbody
  | adjustDate _ => exact wellFormed_of_adjustDate hzone hbody
  | adjustTime _ => exact wellFormed_of_adjustTime hzone hbody
  | dateTimeOfParts => exact wellFormed_of_dateTimeOfParts context harguments hbody
  | currentDateTime =>
    obtain rfl := Except.ok.inj hbody
    exact Sequence.wellFormed_single (AtomicValue.wellFormed_of_zone hcurrent)
  | currentDate =>
    obtain rfl := Except.ok.inj hbody
    exact Sequence.wellFormed_single (AtomicValue.wellFormed_of_zone hcurrent)
  | currentTime =>
    obtain rfl := Except.ok.inj hbody
    exact Sequence.wellFormed_single (AtomicValue.wellFormed_of_zone hcurrent)
  | implicitTimezone =>
    obtain rfl := Except.ok.inj hbody
    exact (Sequence.noCalendar_ofZone _).wellFormed
  | numeric name _ => exact wellFormed_of_numeric context hbody
  | roundHalfToEven _ => exact wellFormed_of_numeric context hbody
  | makeQName => exact wellFormed_of_makeQName context hbody
  | text =>
    obtain rfl := Except.ok.inj hbody
    exact (Sequence.noCalendar_single rfl).wellFormed
  | values =>
    obtain rfl := Except.ok.inj hbody
    exact Sequence.wellFormed_ofValues (wellFormed_argument harguments 0)
  | truth =>
    obtain ⟨b, _, rfl⟩ := exists_of_map_eq_ok hbody
    exact (Sequence.noCalendar_single rfl).wellFormed
  | orderOfTexts => exact wellFormed_of_orderOfTexts context hbody

end Function

theorem Library.wellFormed_of_evaluate {name : ExpandedName} {arguments : List Sequence}
    {context : Context} {result : Sequence} (hzone : context.implicitZone.Lexical)
    (hnow : context.now.zone.Lexical) (harguments : ∀ items ∈ arguments, items.WellFormed)
    (h : standard.evaluate name arguments context = .ok result) : result.WellFormed := by
  rcases evaluate_cases standard name arguments context with
    ⟨_, hunknown⟩ | ⟨function, hfind, _, hcall⟩
  · cases hunknown.symm.trans h
  · obtain ⟨converted, hconverted, hbody⟩ :=
      exists_of_bind_eq_ok (hcall.symm.trans h)
    have hwellFormed := Signature.wellFormed_of_convertArguments harguments hconverted
    have hstandard := isStandard_of_mem (mem_functions_of_find? hfind)
    exact hstandard.wellFormed_of_body hzone hnow hwellFormed hbody

/-! ## Runs -/

namespace AtomicValue

/-- The values that come out of a finite sequence of readings, casts, operators and calls of
standard functions in a context, from the given ones. The items of an argument stand for values
that are there already; the text of a node is there as an untyped value. -/
inductive Produced (given : AtomicValue → Prop) (context : Context) : AtomicValue → Prop
  | start {v} (h : given v) : Produced given context v
  | text {kind text bindings v} (h : read kind text bindings = .ok v) : Produced given context v
  | cast {v w target bindings} (hv : Produced given context v)
      (h : v.cast target bindings = .ok w) : Produced given context w
  | operator {a b w op zone} (ha : Produced given context a) (hb : Produced given context b)
      (h : a.arithmetic op b zone = .ok w) : Produced given context w
  | minus {v w} (hv : Produced given context v) (h : v.negate = .ok w) : Produced given context w
  | call {name arguments result v}
      (harguments : ∀ items ∈ arguments, ∀ w ∈ Sequence.atomize items, Produced given context w)
      (h : Library.standard.evaluate name arguments context = .ok result)
      (hv : v ∈ result.atomize) : Produced given context v

/-- In a context from the builder whose clock shows a well-formed zone, everything that well-formed
values lead to is well formed. -/
theorem wellFormed_of_produced {given : AtomicValue → Prop} {v : AtomicValue}
    (settings : List Context.Builder.Setting) (reading : ClockReading)
    (hnow : ((Context.Builder.run settings).build reading).now.zone.Lexical)
    (hgiven : ∀ v, given v → v.WellFormed)
    (h : Produced given ((Context.Builder.run settings).build reading) v) : v.WellFormed := by
  have hzone : ((Context.Builder.run settings).build reading).implicitZone.Lexical :=
    Context.Builder.lexical_run settings
  -- Along the sequence of operations; only calls depend on the context.
  induction h with
  | start h => exact hgiven _ h
  | text h => exact wellFormed_of_read h
  | cast _ h ih => exact ih.cast h
  | operator _ _ h iha ihb => exact iha.arithmetic ihb h
  | minus _ h _ => exact wellFormed_of_negate h
  | call _ h hv ih => exact Library.wellFormed_of_evaluate hzone hnow ih h _ hv

/-- A date without a zone is adjusted to the implicit zone, which a later setting out of range has
not changed. -/
theorem wellFormed_of_produced_adjusted :
    let reading : ClockReading := ⟨.startOfDay ⟨2000, 1, 1, by decide⟩, .utc⟩
    let settings : List Context.Builder.Setting := [.zoneMinutes 330, .zoneMinutes 841]
    let given := date ⟨⟨2000, 2, 29, by decide⟩, none⟩
    let adjusted := date ⟨⟨2000, 2, 29, by decide⟩, some ⟨19800, by decide⟩⟩
    ((Context.Builder.run settings).build reading).now.zone.Lexical ∧
      (∀ v, v = given → v.WellFormed) ∧
      Produced (fun v => v = given) ((Context.Builder.run settings).build reading) adjusted ∧
      adjusted.WellFormed := by
  intro reading settings given adjusted
  have hnow : ((Context.Builder.run settings).build reading).now.zone.Lexical := by decide
  have hgiven : ∀ v, v = given → v.WellFormed := by
    rintro v rfl
    exact wellFormed_of_zone fun z hz => by cases hz
  have hcall : Library.standard.evaluate (.inFunctions "adjust-date-to-timezone")
      [[.atomic given]] ((Context.Builder.run settings).build reading) =
        .ok [.atomic adjusted] := by decide +kernel
  have hproduced : Produced (fun v => v = given) ((Context.Builder.run settings).build reading)
      adjusted := by
    refine .call (fun items hitems w hw => ?_) hcall List.mem_cons_self
    obtain rfl := List.mem_singleton.mp hitems
    exact .start (List.mem_singleton.mp hw)
  exact ⟨hnow, hgiven, hproduced, wellFormed_of_produced settings reading hnow hgiven hproduced⟩

end AtomicValue

end XPathValues

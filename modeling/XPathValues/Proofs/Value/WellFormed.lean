import Mathlib.Tactic
import XPathValues.Proofs.Value.Provenance

/-!
# Well-formed values

Integers and durations are well formed by their types. A zone may be any offset of less than a day;
reading, casts and operators only lead to those that a lexical form can give.
-/

namespace XPathValues.AtomicValue

/-- An integer is in the range of its type, the months and the seconds of a duration do not have
opposite signs, and a zone is a whole number of minutes within fourteen hours of UTC. -/
structure WellFormed (v : AtomicValue) : Prop where
  inRange : ∀ i, v = integer i → i.kind.admits i.value = true
  oneSign : ∀ d, v = duration d →
    ¬ (d.yearMonth.months < 0 ∧ 0 < d.dayTime.seconds.toRat) ∧
      ¬ (0 < d.yearMonth.months ∧ d.dayTime.seconds.toRat < 0)
  zone : ∀ z, v.zone? = some z → z.Lexical

variable {a b v w : AtomicValue} {kind target : AtomicKind} {given : String} {bindings : Bindings}
  {zone : Timezone} {op : ArithmeticOperator}

theorem wellFormed_of_zone (h : ∀ z, v.zone? = some z → z.Lexical) : v.WellFormed where
  inRange i _ := i.admitted
  oneSign d _ := d.agree
  zone := h

theorem wellFormed_of_not_isCalendar (h : v.isCalendar = false) : v.WellFormed :=
  wellFormed_of_zone fun z hz => by
    rw [zone?_of_not_isCalendar h] at hz
    cases hz

theorem wellFormed_of_read (h : read kind given bindings = .ok v) : v.WellFormed :=
  wellFormed_of_zone (lexical_of_read h)

theorem WellFormed.cast (hv : v.WellFormed) (h : v.cast target bindings = .ok w) : w.WellFormed :=
  wellFormed_of_zone fun z hz => (zone?_of_cast h z hz).elim id (hv.zone z)

theorem WellFormed.arithmetic (ha : a.WellFormed) (hb : b.WellFormed)
    (h : a.arithmetic op b zone = .ok w) : w.WellFormed :=
  wellFormed_of_zone fun z hz => (zone?_of_arithmetic h z hz).elim (ha.zone z) (hb.zone z)

theorem wellFormed_of_negate (h : v.negate = .ok w) : w.WellFormed :=
  wellFormed_of_not_isCalendar (not_isCalendar_negate h)

end XPathValues.AtomicValue

import XPathValues.Bindings
import XPathValues.Calendar.Zoned

/-!
# The static context

What the operations of one evaluation share: the timezone of values that have none, one reading of
the clock, the namespace of functions without a qualifier, and the namespace bindings. A builder
collects the settings; it ignores offsets that no lexical form can give and does not rebind `xml`.
-/

namespace XPathValues

/-- A moment as a clock in a timezone shows it. -/
structure ClockReading where
  moment : Moment
  zone : Timezone
deriving DecidableEq

namespace ClockReading

def dateTime (reading : ClockReading) : DateTime := ⟨reading.moment, some reading.zone⟩

end ClockReading

structure Context where
  implicitZone : Timezone
  now : ClockReading
  functionNamespace : Option String
  namespaces : Bindings
deriving DecidableEq

namespace Context

structure Builder where
  implicitZone : Timezone
  now : Option ClockReading
  functionNamespace : Option String
  namespaces : Bindings
deriving DecidableEq

namespace Builder

/-- UTC, the standard functions, and the reserved qualifiers. -/
def start : Builder :=
  ⟨.utc, none, some Namespace.functions, .ofList Namespace.reserved⟩

def withZoneMinutes (builder : Builder) (minutes : Int) : Builder :=
  match Timezone.ofMinutes? minutes with
  | some zone => { builder with implicitZone := zone }
  | none => builder

def withZone (builder : Builder) (zone : Timezone) : Builder :=
  if zone.seconds % 60 = 0 then builder.withZoneMinutes (zone.seconds / 60) else builder

def withNow (builder : Builder) (now : ClockReading) : Builder :=
  { builder with now := some now }

def withFunctionNamespace (builder : Builder) (uri : Option String) : Builder :=
  { builder with functionNamespace := uri }

def withNamespace (builder : Builder) (qualifier uri : String) : Builder :=
  if qualifier = "xml" then builder
  else { builder with namespaces := builder.namespaces.insert qualifier uri }

/-- The context of the settings; the reading is that of the clock where none was set. -/
def build (builder : Builder) (reading : ClockReading) : Context :=
  ⟨builder.implicitZone, builder.now.getD reading, builder.functionNamespace, builder.namespaces⟩

/-- An offset in whole minutes has an effect exactly when a lexical form can give it. -/
theorem withZone_eq (builder : Builder) (zone : Timezone) :
    builder.withZone zone =
      if zone.Lexical then { builder with implicitZone := zone } else builder := by
  by_cases h : zone.Lexical
  · have hsome : Timezone.ofMinutes? (zone.seconds / 60) = some zone :=
      Timezone.ofMinutes?_eq_some_iff.mpr ⟨by unfold Timezone.Lexical at h; omega, h⟩
    rw [withZone, if_pos h.1, withZoneMinutes, hsome, if_pos h]
  · rw [if_neg h, withZone]
    split
    · next hmod =>
      rw [withZoneMinutes]
      split
      · next zone' hzone =>
        obtain ⟨hseconds, hlexical⟩ := Timezone.ofMinutes?_eq_some_iff.mp hzone
        refine absurd ?_ h
        unfold Timezone.Lexical at *
        omega
      · rfl
    · rfl

end Builder

def resolve? (context : Context) (qualifier : String) : Option String :=
  context.namespaces.resolve? qualifier

end Context

end XPathValues

import XPathValues.Function.Body

/-!
# Functions on timezones and the current time

The current moment and the implicit timezone come from the context. The adjusting functions take
the implicit timezone if they are called without one, and drop the timezone if they are called with
an empty one.
-/

namespace XPathValues.FunctionBody

def currentDateTime : FunctionBody :=
  fun context _ => .ok (.single (.dateTime context.now.dateTime))

def currentDate : FunctionBody :=
  fun context _ => .ok (.single (.date context.now.dateTime.date))

def currentTime : FunctionBody :=
  fun context _ => .ok (.single (.time context.now.dateTime.time))

def implicitTimezone : FunctionBody :=
  fun context _ => .ok (.ofZone (some context.implicitZone))

def timezoneOf (d : DayTimeDuration) : Except Error Timezone :=
  match d.toTimezone? with
  | some zone => .ok zone
  | none => .error (.invalidTimezone d.toText)

/-- The timezone to adjust to, from the second argument. -/
def targetZone (context : Context) (arguments : List Sequence) : Except Error (Option Timezone) :=
  match arguments[1]? with
  | none => .ok (some context.implicitZone)
  | some items => do
    match ← items.expect .dayTimeDuration AtomicValue.asDayTimeDuration? with
    | some d => (timezoneOf d).map some
    | none => return none

def adjustDateTime : FunctionBody :=
  tryMap .dateTime AtomicValue.asDateTimeOnly? fun context arguments x => do
    let target ← targetZone context arguments
    let adjusted ← x.adjust target
    return .single (.dateTime adjusted)

def adjustDate : FunctionBody :=
  tryMap .date AtomicValue.asDate? fun context arguments x => do
    let target ← targetZone context arguments
    let adjusted ← x.adjust target
    return .single (.date adjusted)

def adjustTime : FunctionBody :=
  tryMap .time AtomicValue.asTime? fun context arguments x => do
    let target ← targetZone context arguments
    return .single (.time (x.adjust target))

/-- A date and a time together; empty if one of them is. -/
def dateTimeOfParts : FunctionBody :=
  fun _ arguments => do
    let date? ← (argument arguments 0).expect .date AtomicValue.asDate?
    let time? ← (argument arguments 1).expect .time AtomicValue.asTime?
    match date?, time? with
    | some date, some time => do
      let x ← DateTime.ofDateAndTime date time
      return .single (.dateTime x)
    | _, _ => return []

end XPathValues.FunctionBody

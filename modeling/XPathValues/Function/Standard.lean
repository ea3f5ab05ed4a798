import XPathValues.Function.Component
import XPathValues.Function.General
import XPathValues.Function.Rounding
import XPathValues.Function.Zone

/-!
# The standard library

One constructor for every atomic type, and the standard functions on dates, durations, numbers,
names and items.
-/

namespace XPathValues

namespace Function

def standard (name : String) (parameters : List ParameterType) (body : FunctionBody) : Function :=
  ⟨⟨ExpandedName.inFunctions name, parameters⟩, body⟩

def constructor (kind : AtomicKind) : Function :=
  ⟨⟨kind.expandedName, [⟨.anyAtomic, .zeroOrOne⟩]⟩, .construct kind⟩

def constructors : List Function := AtomicKind.all.map constructor

open FunctionBody

def calendarFunctions : List Function :=
  let dateTime := ParameterType.optional .dateTime
  let date := ParameterType.optional .date
  let time := ParameterType.optional .time
  let offset := ParameterType.optional .dayTimeDuration
  [standard "dateTime" [date, time] dateTimeOfParts,
   standard "current-dateTime" [] currentDateTime,
   standard "current-date" [] currentDate,
   standard "current-time" [] currentTime,
   standard "implicit-timezone" [] implicitTimezone,
   standard "year-from-dateTime" [dateTime] (ofDateTime fun x => .yearOf x.value.date),
   standard "month-from-dateTime" [dateTime] (ofDateTime fun x => .monthOf x.value.date),
   standard "day-from-dateTime" [dateTime] (ofDateTime fun x => .dayOf x.value.date),
   standard "hours-from-dateTime" [dateTime] (ofDateTime fun x => .hoursOf x.value.time),
   standard "minutes-from-dateTime" [dateTime] (ofDateTime fun x => .minutesOf x.value.time),
   standard "seconds-from-dateTime" [dateTime] (ofDateTime fun x => .secondsOf x.value.time),
   standard "timezone-from-dateTime" [dateTime] (ofDateTime fun x => .ofZone x.zone),
   standard "year-from-date" [date] (ofDate fun x => .yearOf x.value),
   standard "month-from-date" [date] (ofDate fun x => .monthOf x.value),
   standard "day-from-date" [date] (ofDate fun x => .dayOf x.value),
   standard "timezone-from-date" [date] (ofDate fun x => .ofZone x.zone),
   standard "hours-from-time" [time] (ofTime fun x => .hoursOf x.value),
   standard "minutes-from-time" [time] (ofTime fun x => .minutesOf x.value),
   standard "seconds-from-time" [time] (ofTime fun x => .secondsOf x.value),
   standard "timezone-from-time" [time] (ofTime fun x => .ofZone x.zone),
   standard "adjust-dateTime-to-timezone" [dateTime] adjustDateTime,
   standard "adjust-dateTime-to-timezone" [dateTime, offset] adjustDateTime,
   standard "adjust-date-to-timezone" [date] adjustDate,
   standard "adjust-date-to-timezone" [date, offset] adjustDate,
   standard "adjust-time-to-timezone" [time] adjustTime,
   standard "adjust-time-to-timezone" [time, offset] adjustTime]

def durationFunctions : List Function :=
  let duration := ParameterType.optional .duration
  [standard "years-from-duration" [duration] (ofDuration .yearsOfDuration),
   standard "months-from-duration" [duration] (ofDuration .monthsOfDuration),
   standard "days-from-duration" [duration] (ofDuration .daysOfDuration),
   standard "hours-from-duration" [duration] (ofDuration .hoursOfDuration),
   standard "minutes-from-duration" [duration] (ofDuration .minutesOfDuration),
   standard "seconds-from-duration" [duration] (ofDuration .secondsOfDuration)]

def numericFunctions : List Function :=
  let number : ParameterType := ⟨.numeric, .zeroOrOne⟩
  let precision := ParameterType.single (.integer .integer)
  [standard "abs" [number] (numeric .absolute),
   standard "ceiling" [number] (numeric .ceiling),
   standard "floor" [number] (numeric .floor),
   standard "round" [number] (numeric .round),
   standard "round-half-to-even" [number] roundHalfToEven,
   standard "round-half-to-even" [number, precision] roundHalfToEven]

def nameFunctions : List Function :=
  let name := ParameterType.optional .qname
  [standard "QName" [.optional .string, .single .string] makeQName,
   standard "local-name-from-QName" [name] (ofQName fun x => .ofText x.localPart),
   standard "prefix-from-QName" [name] (ofQName .qualifierOf),
   standard "namespace-uri-from-QName" [name] (ofQName .namespaceOf)]

def itemFunctions : List Function :=
  let items : ParameterType := ⟨.anyItem, .zeroOrMore⟩
  [standard "string" [⟨.anyItem, .zeroOrOne⟩] text,
   standard "data" [items] values,
   standard "boolean" [items] truth,
   standard "compare" [.optional .string, .optional .string] orderOfTexts]

end Function

namespace Library

def standard : Library :=
  ofList (Function.constructors ++ Function.calendarFunctions ++ Function.durationFunctions ++
    Function.numericFunctions ++ Function.nameFunctions ++ Function.itemFunctions)

end Library

end XPathValues

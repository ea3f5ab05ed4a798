import XPathValues.Text.Digits

/-!
# Timezones

A timezone is an offset from UTC of less than a day. The lexical forms know whole minutes up to
fourteen hours either way, `Z` for no offset, and the absence of a zone, which is not the same as
UTC.
-/

namespace XPathValues

open Text

/-- Seconds east of UTC. -/
structure Timezone where
  seconds : Int
  bounded : -86400 < seconds ∧ seconds < 86400
deriving DecidableEq

namespace Timezone

def utc : Timezone := ⟨0, by decide⟩

/-- The offsets that a lexical form can give. -/
def Lexical (zone : Timezone) : Prop :=
  zone.seconds % 60 = 0 ∧ -50400 ≤ zone.seconds ∧ zone.seconds ≤ 50400

instance (zone : Timezone) : Decidable zone.Lexical := by
  unfold Lexical
  infer_instance

def ofSeconds? (seconds : Int) : Option Timezone :=
  if h : -86400 < seconds ∧ seconds < 86400 then some ⟨seconds, h⟩ else none

/-- Whole minutes within fourteen hours of UTC. Minutes are counted in 32 bits. The least of these
counts, whose absolute value does not fit into them, is left out of all that is said of offsets; here
it is refused like any other beyond fourteen hours. -/
def ofMinutes? (minutes : Int) : Option Timezone :=
  if h : -840 ≤ minutes ∧ minutes ≤ 840 then some ⟨minutes * 60, by omega⟩ else none

/-- A sign, two digits of hours, a colon and two digits of minutes. -/
def readOffset? : List Char → Option Timezone
  | [sign, h₁, h₂, colon, m₁, m₂] =>
    if (sign = '+' ∨ sign = '-') ∧ colon = ':' then do
      let hours ← twoDigits? [h₁, h₂]
      let minutes ← twoDigits? [m₁, m₂]
      if minutes ≤ 59 then
        let offset : Int := hours * 60 + minutes
        ofMinutes? (if sign = '-' then -offset else offset)
      else none
    else none
  | _ => none

/-- A sign six characters before the end and a colon three before it announce an offset. -/
def announcesOffset (text : List Char) : Bool :=
  match text.reverse with
  | _ :: _ :: colon :: _ :: _ :: sign :: _ => colon == ':' && (sign == '+' || sign == '-')
  | _ => false

/-- Split the zone off the end of a text; there is no result when an offset is announced that does
not read, or when the text is not ASCII. -/
def split? (text : List Char) : Option (List Char × Option Timezone) :=
  if text.any fun c => 0x80 ≤ c.toNat then none
  else if text.getLast? = some 'Z' then some (text.dropLast, some utc)
  else if announcesOffset text then
    (readOffset? (text.drop (text.length - 6))).map fun zone =>
      (text.take (text.length - 6), some zone)
  else some (text, none)

/-- `Z` for no offset, else the sign, the hours and the minutes. -/
def toChars (zone : Timezone) : List Char :=
  if zone.seconds = 0 then ['Z']
  else
    let minutes := zone.seconds.natAbs / 60
    (if zone.seconds < 0 then '-' else '+') ::
      padded 2 (minutes / 60) ++ ':' :: padded 2 (minutes % 60)

def toText (zone : Timezone) : String :=
  String.ofList zone.toChars

/-- Nothing is written where no zone is given. -/
def optionalChars (zone : Option Timezone) : List Char :=
  (zone.map toChars).getD []

theorem lexical_of_ofMinutes? {minutes : Int} {zone : Timezone}
    (h : ofMinutes? minutes = some zone) : zone.Lexical := by
  unfold ofMinutes? at h
  split at h
  · obtain rfl := Option.some.inj h
    unfold Lexical
    dsimp only
    omega
  · cases h

theorem ofMinutes?_eq_some_iff {minutes : Int} {zone : Timezone} :
    ofMinutes? minutes = some zone ↔ zone.seconds = minutes * 60 ∧ zone.Lexical := by
  constructor
  · intro h
    refine ⟨?_, lexical_of_ofMinutes? h⟩
    unfold ofMinutes? at h
    split at h
    · obtain rfl := Option.some.inj h
      rfl
    · cases h
  · rintro ⟨hseconds, hlexical⟩
    obtain ⟨seconds, bounded⟩ := zone
    obtain rfl : seconds = minutes * 60 := hseconds
    have h : -840 ≤ minutes ∧ minutes ≤ 840 := by
      unfold Lexical at hlexical
      dsimp only at hlexical
      omega
    exact dif_pos h

theorem utc_lexical : utc.Lexical := by decide

end Timezone

end XPathValues

import XPathValues.Text.Alphabetic
import XPathValues.Text.Digits
import XPathValues.Text.Numeral

/-!
# Names without and with a qualifier

A name starts with an underscore or an alphabetic character and goes on with alphabetic characters,
numerals, underscores, hyphens, full stops and middle dots. A lexical QName is one such name, or two
of them with a colon between.
-/

namespace XPathValues.Text

def isNameStart (c : Char) : Bool :=
  c == '_' || isAlphabetic c

def isNameChar (c : Char) : Bool :=
  isAlphabetic c || isNumeral c || c == '_' || c == '-' || c == '.' || c == '\u00B7'

def isNCName : List Char → Bool
  | [] => false
  | c :: rest => isNameStart c && rest.all isNameChar

/-- The qualifier, if there is one, and the local part of a lexical QName. -/
def splitQName? (text : String) : Option (Option String × String) :=
  match cutAt? (· == ':') text.toList with
  | some (qualifier, part) =>
    if isNCName qualifier && isNCName part then
      some (some (String.ofList qualifier), String.ofList part)
    else none
  | none => if isNCName text.toList then some (none, text) else none

/-- A part of a lexical QName holds no colon, so the first colon is the only one. -/
theorem colon_not_mem_of_isNCName {name : List Char} (h : isNCName name = true) : ':' ∉ name := by
  cases name with
  | nil => simp
  | cons c rest =>
    simp only [isNCName, Bool.and_eq_true, List.all_eq_true] at h
    intro hmem
    rcases List.mem_cons.mp hmem with rfl | hmem
    · exact absurd h.1 (by decide)
    · exact absurd (h.2 _ hmem) (by decide)

end XPathValues.Text

import XPathValues.Kind.Integer

/-!
# Integers of bounded size

An integer is stored in 128 bits and carries one of the integer types, whose range it respects.
The plain type `integer` has no range of its own, so only storage limits it.
-/

namespace XPathValues

namespace Integer

def minStored : Int := -170141183460469231731687303715884105728

def maxStored : Int := 170141183460469231731687303715884105727

/-- The integer fits into 128 bits. -/
def Stored (n : Int) : Prop := minStored ≤ n ∧ n ≤ maxStored

instance (n : Int) : Decidable (Stored n) := by
  unfold Stored
  infer_instance

end Integer

structure Integer where
  kind : IntegerKind
  value : Int
  stored : Integer.Stored value
  admitted : kind.admits value = true
deriving DecidableEq

namespace Integer

def plain (n : Int) (h : Stored n) : Integer :=
  ⟨.integer, n, h, rfl⟩

def plain? (n : Int) : Option Integer :=
  if h : Stored n then some (plain n h) else none

/-- The same value with another type, if its range allows that. -/
def relabel? (i : Integer) (kind : IntegerKind) : Option Integer :=
  if h : kind.admits i.value = true then some ⟨kind, i.value, i.stored, h⟩ else none

def toText (i : Integer) : String :=
  toString i.value

theorem stored_zero : Stored 0 := by decide

theorem stored_of_natAbs_le {n : Int} (h : n.natAbs ≤ 79228162514264337593543950335) :
    Stored n := by
  unfold Stored minStored maxStored
  omega

theorem plain?_eq_some_iff {n : Int} {i : Integer} :
    plain? n = some i ↔ i.kind = .integer ∧ i.value = n := by
  unfold plain?
  constructor
  · intro h
    split at h
    · obtain rfl := Option.some.inj h
      exact ⟨rfl, rfl⟩
    · cases h
  · rintro ⟨hkind, rfl⟩
    obtain ⟨kind, value, stored, admitted⟩ := i
    obtain rfl : kind = .integer := hkind
    exact dif_pos stored

/-- Only the range of the new type can keep an integer from taking it. -/
theorem relabel?_eq_some_iff {i j : Integer} {kind : IntegerKind} :
    i.relabel? kind = some j ↔ j.kind = kind ∧ j.value = i.value := by
  unfold relabel?
  constructor
  · intro h
    split at h
    · obtain rfl := Option.some.inj h
      exact ⟨rfl, rfl⟩
    · cases h
  · obtain ⟨_, _, _, admitted⟩ := j
    rintro ⟨rfl, rfl⟩
    exact dif_pos admitted

end Integer

end XPathValues

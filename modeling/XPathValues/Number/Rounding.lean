/-!
# Rounding a rational to an integer

Every number of this library that is not stored exactly is the image of an exact rational under one
of these rules. They differ in the side they choose and, for the two nearest rules, in the neighbour
that a tie goes to.
-/

namespace XPathValues.Rounding

/-- The nearest integer; a tie goes to the even neighbour. -/
def halfEven (q : Rat) : Int :=
  let below := q.floor
  let rest := q - below
  if rest < 1 / 2 then below
  else if 1 / 2 < rest then below + 1
  else if below % 2 = 0 then below
  else below + 1

/-- The nearest integer; a tie goes away from zero. -/
def halfAway (q : Rat) : Int :=
  if 0 ≤ q then (q + 1 / 2).floor else -(-q + 1 / 2).floor

def towardZero (q : Rat) : Int :=
  if 0 ≤ q then q.floor else q.ceil

/-- The order of two exact numbers. -/
def compareExact (a b : Rat) : Ordering :=
  if a < b then .lt else if a = b then .eq else .gt

theorem halfEven_eq_floor_or (q : Rat) : halfEven q = q.floor ∨ halfEven q = q.floor + 1 := by
  unfold halfEven
  dsimp only
  split
  · exact .inl rfl
  · split
    · exact .inr rfl
    · split
      · exact .inl rfl
      · exact .inr rfl

@[simp] theorem halfEven_intCast (n : Int) : halfEven (n : Rat) = n := by
  have h : ((n : Rat) - ((n : Rat).floor : Rat)) < 1 / 2 := by
    rw [Rat.floor_intCast, Rat.sub_self]
    decide +kernel
  unfold halfEven
  dsimp only
  rw [if_pos h, Rat.floor_intCast]

@[simp] theorem towardZero_intCast (n : Int) : towardZero (n : Rat) = n := by
  unfold towardZero
  split
  · exact Rat.floor_intCast n
  · exact Rat.ceil_intCast n

theorem compareExact_eq_eq_iff {a b : Rat} : compareExact a b = .eq ↔ a = b := by
  unfold compareExact
  split
  · next h => simp [Rat.ne_of_lt h]
  · split <;> simp_all

theorem compareExact_eq_lt_iff {a b : Rat} : compareExact a b = .lt ↔ a < b := by
  unfold compareExact
  split
  · simp_all
  · split <;> simp_all

theorem compareExact_swap (a b : Rat) : (compareExact a b).swap = compareExact b a := by
  unfold compareExact
  by_cases hlt : a < b
  · have hge : ¬ b < a := Rat.not_lt.mpr (Rat.le_of_lt hlt)
    simp [hlt, hge, Rat.ne_of_gt hlt]
  · by_cases heq : a = b
    · subst heq
      rw [if_neg hlt, if_pos rfl]
      rfl
    · have hgt : b < a :=
        Rat.lt_of_le_of_ne (Rat.not_lt.mp hlt) (Ne.symm heq)
      simp [hlt, heq, hgt]

end XPathValues.Rounding

import LoxScan.Number.Double

/-! # The shortest decimal of a double

Many decimals read as the same double.  The one to print has the fewest digits, and among
those it is the nearest to the exact value.

The search goes through the grids of multiples of `10 ^ (place - 1074)`, from coarse to
fine.  A double and the decimals that read as it form an interval, so if any multiple on a
grid reads as the double, then one of the two neighbours of its exact value does.  The
exact value is `units · 5 ^ 1074` in steps of `10 ^ (-1074)`, an integer, and the first grid
above it has only the neighbours `0` and `1`; hence a decimal that is found never ends in a
zero.  The finest grid holds the exact value itself, so the search always ends with a
decimal that reads back. -/

namespace LoxScan.Double

/-- The absolute value of a finite double in steps of `10 ^ (-1074)`. -/
def steps (magnitude : Nat) : Nat := units magnitude * Nat.pow 5 1074

/-- The decimal reads as the double of this magnitude. -/
def readsAs (magnitude : Nat) (d : Decimal) : Bool :=
  nearestMagnitude d.numerator d.denominator == magnitude

/-- Of the two neighbours of the exact value, the one that reads back; if both do, the lower one
if it is nearer, and otherwise the upper one. -/
def neighbour? (below above : Decimal) (nearer : Bool) :
    (readsBelow readsAbove : Bool) → Option Decimal
  | true, true => some (if nearer then below else above)
  | true, false => some below
  | false, true => some above
  | false, false => none

theorem neighbour?_eq_some {below above d : Decimal} {nearer readsBelow readsAbove : Bool}
    (h : neighbour? below above nearer readsBelow readsAbove = some d) :
    readsBelow = true ∧ d = below ∨ readsAbove = true ∧ d = above := by
  cases readsBelow <;> cases readsAbove
  case false.false => cases h
  case false.true => exact .inr ⟨rfl, (Option.some.inj h).symm⟩
  case true.false => exact .inl ⟨rfl, (Option.some.inj h).symm⟩
  case true.true =>
    cases nearer
    · exact .inr ⟨rfl, (Option.some.inj h).symm⟩
    · exact .inl ⟨rfl, (Option.some.inj h).symm⟩

/-- There is none only if neither reads back. -/
theorem neighbour?_eq_none {below above : Decimal} {nearer readsBelow readsAbove : Bool}
    (h : neighbour? below above nearer readsBelow readsAbove = none) :
    readsBelow = false ∧ readsAbove = false := by
  cases readsBelow <;> cases readsAbove <;> cases h
  exact ⟨rfl, rfl⟩

/-- The decimal to print on one grid, if there is one: a neighbour of the exact value that reads
back, the nearer one if both do, and the upper one if they are equally near. -/
def onGrid? (magnitude place : Nat) : Option Decimal :=
  let value := steps magnitude
  let grid := Nat.pow 10 place
  let below : Decimal := ⟨value / grid, place - 1074⟩
  let above : Decimal := ⟨value / grid + 1, place - 1074⟩
  neighbour? below above (2 * (value % grid) < grid) (readsAs magnitude below)
    (readsAs magnitude above)

/-- The first hit on the grids from `place` down to the finest one. -/
def shortestFrom (magnitude : Nat) : Nat → Decimal
  | 0 => ⟨steps magnitude, -1074⟩
  | place + 1 => (onGrid? magnitude (place + 1)).getD (shortestFrom magnitude place)

/-- A grid wider than the exact value: `2 ^ 93` is less than `10 ^ 28`, so a number of `b`
bits is below ten to the power `28 b / 93 + 1`. -/
def firstPlace (magnitude : Nat) : Nat := ((steps magnitude).log2 + 1) * 28 / 93 + 1

/-- The shortest decimal that reads as the finite double of this magnitude, the nearest of
the shortest ones. -/
def shortest (magnitude : Nat) : Decimal := shortestFrom magnitude (firstPlace magnitude)

example : shortest (ofDecimal false ⟨1, -1⟩).magnitude = ⟨1, -1⟩ := by decide +kernel
example : shortest (ofDecimal false ⟨1, 23⟩).magnitude = ⟨1, 23⟩ := by decide +kernel
example : shortest 1 = ⟨5, -324⟩ := by decide +kernel

end LoxScan.Double

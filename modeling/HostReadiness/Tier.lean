import HostReadiness.Quantity

/-! The two tiers of an installation, and which of them a host falls short of. -/

namespace HostReadiness

inductive Tier where
  | test
  | production
deriving DecidableEq, Repr

def Tier.name : Tier → String
  | .test => "test"
  | .production => "production"

/-- The lowest tier whose minimum a value falls short of. Both minimums are first multiplied by the
wiggle room; the second product is formed only if the first one is reached. -/
def failedTier (value testMinimum productionMinimum wiggleRoom : Quantity) :
    Except Binary64.RangeOverflow (Option Tier) := do
  if value.below (← testMinimum.mul wiggleRoom) then return some .test
  else if value.below (← productionMinimum.mul wiggleRoom) then return some .production
  else return none

/-- The wiggle room of a source that is taken at its word. -/
def noWiggleRoom : Quantity :=
  .binary (.finite false Binary64.one)

end HostReadiness

import HostReadiness.Requirements
import HostReadiness.Tier

/-! Minimums that a caller gives in place of the published ones. -/

namespace HostReadiness

def Minimums.of (m : Minimums) : Tier → Int
  | .test => m.test
  | .production => m.production

abbrev Overrides := Resource → Tier → Option Int

def Overrides.empty : Overrides :=
  fun _ _ => none

def Overrides.give (given : Overrides) (resource : Resource) (tier : Tier) (least : Int) : Overrides :=
  fun r t => if r = resource ∧ t = tier then some least else given r t

def Minimums.override (m : Minimums) (given : Tier → Option Int) : Minimums :=
  ⟨(given .test).getD m.test, (given .production).getD m.production⟩

def Thresholds.override (t : Thresholds) (given : Overrides) : Thresholds where
  product := t.product
  cpu := t.cpu.override (given .cpu)
  memory := t.memory.override (given .memory)
  network := t.network.override (given .network)

def Requirements.ofOverrides (product : String) (given : Overrides) :
    Except InvalidThresholds Requirements :=
  ofThresholds ({ Thresholds.default with product }.override given)

end HostReadiness

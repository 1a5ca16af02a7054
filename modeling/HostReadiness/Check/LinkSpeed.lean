import HostReadiness.Check.Basic
import HostReadiness.Reading.Count
import HostReadiness.Template.Expand
import HostReadiness.Tier

/-! The speed of a network link, which the kernel reports in Mbps. -/

namespace HostReadiness.LinkSpeed

def path (locations : Locations) (device : String) : Except Fault String :=
  match Template.expand ['d', 'e', 'v'] device.toList locations.linkSpeed.toList with
  | .ok path => .ok (String.ofList path)
  | .error fault => .error (.template fault)

/-- What is said about a speed that falls short of a tier. Speeds such as 2.5 Gbps exist, so the figure
in Gbps may have a fraction. -/
def shortfall (t : Thresholds) (device : String) (mbps : Int) (gbps : Binary64) :
    Tier → Except Numeral.DigitLimit String
  | .test => do
    return "Link speed of " ++ device ++ " is only " ++ (← Numeral.write mbps) ++ "Mbps. " ++
      t.product ++ " requires at least " ++ (← Numeral.write t.network.test) ++
      "Gbps for testing and " ++ (← Numeral.write t.network.production) ++
      "Gbps for production use."
  | .production => do
    return "Link speed of " ++ device ++ " is " ++ Binary64.Layout.general.text gbps ++ "Gbps. " ++
      t.product ++ " requires at least " ++ (← Numeral.write t.network.production) ++
      "Gbps for production use."

def verdict (t : Thresholds) (device : String) (mbps : Int) : Except Fault String := do
  let gbps ← Fault.ofRange (Binary64.quotient mbps 1000)
  match ← Fault.ofRange (failedTier (.binary gbps) (.whole t.network.test)
    (.whole t.network.production) noWiggleRoom) with
  | some tier => Fault.ofDigits (shortfall t device mbps gbps tier)
  | none => return ""

/-- Reads the speed file. A link that is down, or virtual, reports no positive number. -/
def probe (setup : Setup) (device : String) : Probe String := do
  let path ← Probe.ofExcept (path setup.locations device)
  let content ← Probe.query (.readWhole path)
  let mbps ← Probe.ofExcept (Fault.ofDigits (Reading.count content.toList))
  if mbps < 1 then Probe.ofExcept (.error (.noLinkSpeed path mbps))
  else Probe.ofExcept (verdict setup.requirements.toThresholds device mbps)

def check (setup : Setup) (device : String) : Check :=
  ⟨"network", probe setup device⟩

end HostReadiness.LinkSpeed

import HostReadiness.Check.Basic
import HostReadiness.Reading.Count
import HostReadiness.Tier

/-! The number of CPU cores. -/

namespace HostReadiness.Cpu

def shortfall (t : Thresholds) (cores : Int) : Tier → Except Numeral.DigitLimit String
  | .test => do
    return "Only " ++ (← Numeral.write cores) ++ " CPU cores detected. " ++ t.product ++
      " requires at least " ++ (← Numeral.write t.cpu.test) ++ " cores for testing and " ++
      (← Numeral.write t.cpu.production) ++ " for production use."
  | .production => do
    return (← Numeral.write cores) ++ " CPU cores detected. " ++ t.product ++
      " requires at least " ++ (← Numeral.write t.cpu.production) ++ " cores for production use."

def verdict (t : Thresholds) (cores : Int) : Except Fault String := do
  match ← Fault.ofRange (failedTier (.whole cores) (.whole t.cpu.test) (.whole t.cpu.production)
    noWiggleRoom) with
  | some tier => Fault.ofDigits (shortfall t cores tier)
  | none => return ""

def probe (setup : Setup) : Probe String := do
  let output ← Probe.query (.run setup.locations.coreCount)
  let cores ← Probe.ofExcept (Fault.ofDigits (Reading.count output.toList))
  Probe.ofExcept (verdict setup.requirements.toThresholds cores)

def check (setup : Setup) : Check :=
  ⟨"cpu", probe setup⟩

end HostReadiness.Cpu

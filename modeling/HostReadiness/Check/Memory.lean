import HostReadiness.Check.Basic
import HostReadiness.Reading.Memory
import HostReadiness.Tier

/-! The installed memory. The firmware's list of memory ranges adds up to it exactly. Where that list
is not to be had, the kernel's total stands in; it leaves out what firmware and kernel keep for
themselves, so the minimums are lowered by a tenth for it. -/

namespace HostReadiness.Memory

def source : String := "preflight.checks.memory"

def kernelWiggleRoom : Quantity :=
  .binary (Binary64.ofScientific ⟨false, 9, -1⟩)

def shortfall (t : Thresholds) (reported : String) : Tier → Except Numeral.DigitLimit String
  | .test => do
    return "Only " ++ reported ++ " RAM detected. " ++ t.product ++ " requires at least " ++
      (← Numeral.write t.memory.test) ++ "GiB for testing and " ++
      (← Numeral.write t.memory.production) ++ "GiB for production use."
  | .production => do
    return reported ++ " RAM detected. " ++ t.product ++ " requires at least " ++
      (← Numeral.write t.memory.production) ++ "GiB for production use."

def verdict (t : Thresholds) (kib : Int) (wiggleRoom : Quantity) : Except Fault String := do
  let reported ← Fault.ofDigits (Reading.amountText kib)
  let gib ← Fault.ofRange (Binary64.ofInt (kib / Reading.gibibyteKib))
  match ← Fault.ofRange (failedTier (.binary gib) (.whole t.memory.test)
    (.whole t.memory.production) wiggleRoom) with
  | some tier => Fault.ofDigits (shortfall t reported tier)
  | none => return ""

def hugeRangeNote (size : Nat) (unit : String) : String :=
  "Found Memory Array Mapped Address with Range Size " ++ Numeral.decimal size ++ " " ++ unit ++
    ", assuming 1 TiB RAM for preflight check"

def rangesKib (listing : String) : Probe Int := do
  match ← Probe.ofExcept (Fault.ofDigits (Reading.rangeTotal listing.toList)) with
  | .huge size unit => do
    Probe.record .info source (hugeRangeNote size unit)
    return Reading.tebibyteKib
  | .sum kib => return kib

/-- The total that the firmware's utility lists. If the utility fails in any way the total is zero,
and a record tells of the failure. -/
def firmwareKib (locations : Locations) : Probe Int := do
  match ← (Probe.query (.run locations.memoryRanges)).attempt with
  | .ok listing => rangesKib listing
  | .error fault =>
    if fault.isOfUtility then do
      Probe.record .debug source
        ("dmidecode unavailable, falling back to " ++ locations.meminfo ++ ": " ++ fault.message)
      return 0
    else Probe.ofExcept (.error fault)

/-- The total on the first line that gives one, even if reading fails further down. Without such a
line, what is wrong with the file comes out. -/
def total (reading : LineReading) : Except Fault Nat :=
  match reading.fault with
  | some fault =>
    if reading.lines.any fun line => (Reading.memTotal? line).isSome then
      Fault.ofDigits (Reading.memTotalOfLines reading.lines)
    else .error fault
  | none => Fault.ofDigits (Reading.memTotalOfLines reading.lines)

def kernelKib (locations : Locations) : Probe Int := do
  let reading ← Probe.query (.readLines locations.meminfo)
  let kib ← Probe.ofExcept (total reading)
  if kib = 0 then Probe.ofExcept (.error (.noMemoryTotal locations.meminfo)) else return kib

def probe (setup : Setup) : Probe String := do
  let installed ← firmwareKib setup.locations
  if installed = 0 then
    let kib ← kernelKib setup.locations
    Probe.ofExcept (verdict setup.requirements.toThresholds kib kernelWiggleRoom)
  else Probe.ofExcept (verdict setup.requirements.toThresholds installed noWiggleRoom)

def check (setup : Setup) : Check :=
  ⟨"memory", probe setup⟩

end HostReadiness.Memory

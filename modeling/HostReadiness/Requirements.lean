import HostReadiness.Numeral.Whole

/-! The minimums that a host has to meet, by resource and tier. -/

namespace HostReadiness

/-- The resources that have minimums, in the order in which they are validated. -/
inductive Resource where
  | cpu
  | memory
  | network
deriving DecidableEq, Repr

def Resource.name : Resource → String
  | .cpu => "cpu"
  | .memory => "memory"
  | .network => "network"

structure Minimums where
  test : Int
  production : Int
deriving DecidableEq, Repr

def Minimums.Valid (m : Minimums) : Prop :=
  0 < m.test ∧ 0 < m.production ∧ m.test ≤ m.production

instance (m : Minimums) : Decidable m.Valid :=
  inferInstanceAs (Decidable (_ ∧ _))

/-- What is asked of a host, and the product on whose behalf. Cores are counted, memory is in GiB and
link speed in Gbps. -/
structure Thresholds where
  product : String
  cpu : Minimums
  memory : Minimums
  network : Minimums
deriving DecidableEq, Repr

def Thresholds.default : Thresholds :=
  ⟨"SaftOS", ⟨8, 16⟩, ⟨32, 64⟩, ⟨1, 10⟩⟩

def Thresholds.minimums (t : Thresholds) : Resource → Minimums
  | .cpu => t.cpu
  | .memory => t.memory
  | .network => t.network

inductive InvalidThresholds where
  | notPositive (resource : Resource) (minimums : Minimums)
  | inverted (resource : Resource) (minimums : Minimums)
deriving DecidableEq, Repr

/-- The minimums of a resource, checked for their signs before their order. -/
def Minimums.check (resource : Resource) (m : Minimums) : Except InvalidThresholds Unit :=
  if m.test ≤ 0 ∨ m.production ≤ 0 then .error (.notPositive resource m)
  else if m.production < m.test then .error (.inverted resource m)
  else .ok ()

/-- Thresholds whose minimums are valid for every resource. -/
structure Requirements extends Thresholds where
  cpu_valid : cpu.Valid
  memory_valid : memory.Valid
  network_valid : network.Valid

theorem Minimums.valid_of_check {resource : Resource} {m : Minimums} (h : m.check resource = .ok ()) :
    m.Valid := by
  unfold check at h
  split at h
  · simp at h
  · split at h
    · simp at h
    · exact ⟨by omega, by omega, by omega⟩

def Requirements.ofThresholds (t : Thresholds) : Except InvalidThresholds Requirements :=
  match cpu : t.cpu.check .cpu, memory : t.memory.check .memory,
    network : t.network.check .network with
  | .ok (), .ok (), .ok () =>
    .ok ⟨t, Minimums.valid_of_check cpu, Minimums.valid_of_check memory,
      Minimums.valid_of_check network⟩
  | .error fault, _, _ => .error fault
  | .ok (), .error fault, _ => .error fault
  | .ok (), .ok (), .error fault => .error fault

def Requirements.published (product : String) : Requirements :=
  ⟨{ Thresholds.default with product }, (by decide : Thresholds.default.cpu.Valid),
    (by decide : Thresholds.default.memory.Valid), (by decide : Thresholds.default.network.Valid)⟩

def Requirements.default : Requirements :=
  published Thresholds.default.product

def InvalidThresholds.text : InvalidThresholds → Except Numeral.DigitLimit String
  | .notPositive resource m => do
    return resource.name ++ " minimums must be positive (got " ++ (← Numeral.write m.test) ++ "/" ++
      (← Numeral.write m.production) ++ ")"
  | .inverted resource m => do
    return resource.name ++ " test minimum " ++ (← Numeral.write m.test) ++
      " is above production minimum " ++ (← Numeral.write m.production)

def InvalidThresholds.message (fault : InvalidThresholds) : String :=
  match fault.text with
  | .ok text => text
  | .error limit => limit.message

end HostReadiness

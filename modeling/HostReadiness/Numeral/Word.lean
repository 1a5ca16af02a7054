/-! Numbers that fit into a machine word. -/

namespace HostReadiness.Numeral

def maxWord : Nat := Nat.pow 2 63 - 1

def fitsWord (n : Int) : Bool :=
  -(maxWord : Int) - 1 ≤ n && n ≤ maxWord

end HostReadiness.Numeral

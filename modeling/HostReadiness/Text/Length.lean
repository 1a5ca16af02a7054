/-! How long a text may get. -/

namespace HostReadiness.Text

/-- The longest run of padding that is written. No memory is found for a longer one. -/
def longest : Nat := Nat.pow 2 27

end HostReadiness.Text

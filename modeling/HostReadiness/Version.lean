/-! The version of the program. -/

namespace HostReadiness

def version (installed : Bool) : String :=
  if installed then "0.1.0" else "0.0.0.dev0"

end HostReadiness

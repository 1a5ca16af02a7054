import HostReadiness.Engine.Result

/-! Results as a JSON payload, for programs that go on from them. -/

namespace HostReadiness

def Summary.toJson (summary : Summary) : Json :=
  .object [("pass", .ofNat summary.pass), ("fail", .ofNat summary.fail),
    ("error", .ofNat summary.error)]

def CheckResult.toJson (result : CheckResult) : Json :=
  .object <|
    [("name", .text result.name), ("status", .text result.status.name),
      ("message", .text result.message), ("error", .ofText? result.error)] ++
    if result.details.isEmpty then [] else [("details", .object result.details)]

def payload (results : List CheckResult) : Json :=
  .object [("ok", .bool (allPassed results)), ("summary", (summarize results).toJson),
    ("checks", .array (results.map CheckResult.toJson))]

end HostReadiness

/-!
# Results of health checks
-/

namespace Muster

/-- What one run of a health check came to. -/
structure CheckResult where
  success : Bool
  output : String := ""
  exitCode : Option Int := none
deriving Repr, DecidableEq, Inhabited

end Muster

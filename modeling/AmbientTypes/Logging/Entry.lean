import AmbientTypes.Json.Value

namespace AmbientTypes.Logging

inductive Severity where
  | debug
  | info
  | warning
  | error
  | critical
  deriving DecidableEq, Repr

namespace Severity

def name : Severity → String
  | debug => "debug"
  | info => "info"
  | warning => "warning"
  | error => "error"
  | critical => "critical"

def rank : Severity → Nat
  | debug => 0
  | info => 1
  | warning => 2
  | error => 3
  | critical => 4

end Severity

structure Entry where
  severity : Severity
  event : String
  fields : List (String × Json)

end AmbientTypes.Logging

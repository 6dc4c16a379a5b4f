import Reattempt.Json.Writer
import Reattempt.Metrics.Basic
import Reattempt.Text.Described

/-!
Readings of the counters as a line of text, and as JSON with and without the derived rates.
-/
namespace Reattempt.MetricsReading

def text (r : MetricsReading) : String :=
  Text.describe "RetryMetrics"
    [("attempts", toString r.attempts.toNat), ("successes", toString r.successes.toNat),
      ("failures", toString r.failures.toNat), ("retries", toString r.retries.toNat),
      ("success_rate", r.successRate.fixed 3), ("open_breakers", toString r.openBreakers)]
    false

/-- The four counters. -/
def counterFields (r : MetricsReading) : List (String × Document) :=
  [("total_attempts", .whole r.attempts.toNat), ("total_successes", .whole r.successes.toNat),
    ("total_failures", .whole r.failures.toNat), ("total_retries", .whole r.retries.toNat)]

/-- What is derived from the counters. -/
def rateFields (r : MetricsReading) : List (String × Document) :=
  [("total_operations", .whole r.operations), ("success_rate", .real r.successRate),
    ("failure_rate", .real r.failureRate), ("average_retries_per_operation", .real r.averageRetries)]

def gaugeField (r : MetricsReading) : String × Document :=
  ("active_circuit_breakers", .whole r.openBreakers)

def json (r : MetricsReading) : String :=
  Json.write (.ofFields (r.counterFields ++ [r.gaugeField]))

def jsonWithRates (r : MetricsReading) : String :=
  Json.write (.ofFields (r.counterFields ++ r.rateFields ++ [r.gaugeField]))

end Reattempt.MetricsReading

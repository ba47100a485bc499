import QueryGateway.Queue.Delivery

/-!
# Retries

A delivery that fails for a passing reason is delivered again, up to a number of attempts.

## Main definitions

* `RetryPolicy` — the number of attempts.
-/

namespace QueryGateway

/-- How often a delivery is attempted. -/
structure RetryPolicy where
  maxAttempts : UInt32 := 5
  deriving DecidableEq, Repr

namespace RetryPolicy

/-- A policy of at least one attempt. -/
def ofMax (maxAttempts : UInt32) : RetryPolicy :=
  ⟨if maxAttempts = 0 then 1 else maxAttempts⟩

/-- Whether another attempt follows one that failed for a passing reason. -/
def allows (policy : RetryPolicy) (attempt : UInt32) : Bool :=
  attempt < policy.maxAttempts

/-- What becomes of a delivery whose attempt failed for a passing reason. -/
def afterFailure (policy : RetryPolicy) (attempt : UInt32) : Disposition :=
  .refused (policy.allows attempt)

end RetryPolicy

end QueryGateway

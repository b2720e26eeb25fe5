import SmartGate.Policy.RateLimitAccounting
import SmartGate.Policy.RateLimitPromise

/-!
# Rollbacks in a later window

A rollback reads the clock anew and lowers the counter of the window that it finds.  When the
window has changed since the check, the counter of the new window can go below zero.  The
script then replies with a negative count, exactly when more rollbacks than checks have landed
in one of the two windows that it looks at.  The source does not say how the client reads such
a reply.  Whether it refuses it or casts it to an unsigned number, the call is not let through.
-/

namespace SmartGate

open ExpiringStore Transition

section Steps

variable (windowSecs : ℕ) (saId : ServiceAccountId) (k : ℕ)

end Steps

section Run

variable {conv : ReplyConversion} {windowSecs globalRpm : ℕ} {s t : AccountingState}
  {a : AccountingStep}

end Run

/-! ## Negative counts -/

section Run

variable {conv : ReplyConversion} {windowSecs globalRpm : ℕ} {s t : AccountingState}

end Run

end SmartGate

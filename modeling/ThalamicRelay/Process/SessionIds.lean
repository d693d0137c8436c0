import ThalamicRelay.Process.Restart
import ThalamicRelay.Shared.Decimal
import ThalamicRelay.Shared.TextLines

set_option autoImplicit false

namespace ThalamicRelay

open Decimal TextLines

def generateSessionId (pid nanos disc : Nat) : String :=
  "vahtisiru-" ++ toString pid ++ "-" ++ toString nanos ++ "-" ++ toString disc

/-- A process and what its clock read each time it made a session, in the order in which the
sessions took their discriminators. -/
structure Boot where
  pid : Nat
  nanos : List Nat

namespace Boot

def discriminators : Nat := 2 ^ 64

-- SESSION_DISCRIMINATOR starts at 0 and wraps.
def sessions (boot : Boot) : List String :=
  boot.nanos.zipIdx.map fun made => generateSessionId boot.pid made.1 (made.2 % discriminators)

def Apart (first second : Boot) : Prop :=
  first.pid = second.pid → ∀ nanos ∈ first.nanos, nanos ∉ second.nanos

end Boot

namespace Lifetime

end Lifetime

end ThalamicRelay

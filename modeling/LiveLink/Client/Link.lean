import LiveLink.Backoff
import LiveLink.Board

/-!
# The connection

What the client knows about its connection, and every way it changes. Each
change is one step that nothing else comes between. Whoever keeps the connection
up does so for one generation: `connect` and `disconnect` start a new one, and a
supervisor of an earlier generation changes nothing any more.
-/

namespace LiveLink

/-- The connection as the client knows it. Supervisors and sockets go by their numbers. -/
structure Link where
  status : Status
  token : Option String
  /-- The socket whose queue takes what is sent. -/
  outbound : Option Nat
  /-- How many attempts have failed in a row. -/
  attempts : UInt32
  generation : Nat
  /-- How often the status has changed. -/
  changes : Nat
  /-- The supervisor that keeps the connection up. -/
  supervisor : Option Nat
  /-- A supervisor whose session was told to close and may still be at it. -/
  closing : Option Nat
  deriving DecidableEq

namespace Link

/-- Never connected. -/
def initial : Link := ⟨.initial, none, none, 0, 0, 0, none, none⟩

instance : Inhabited Link := ⟨initial⟩

/-- Sets the status; gives the change, if it is one. -/
def setStatus (l : Link) (s : Status) : Link × Option Change :=
  if l.status = s then (l, none)
  else ({ l with status := s, changes := l.changes + 1 }, some ⟨l.changes + 1, s⟩)

section SetStatus

variable (l : Link) (s : Status)

@[simp] theorem setStatus_status : (l.setStatus s).1.status = s := by
  unfold setStatus
  split
  · assumption
  · rfl

@[simp] theorem setStatus_token : (l.setStatus s).1.token = l.token := by
  unfold setStatus
  split <;> rfl

@[simp] theorem setStatus_outbound : (l.setStatus s).1.outbound = l.outbound := by
  unfold setStatus
  split <;> rfl

@[simp] theorem setStatus_attempts : (l.setStatus s).1.attempts = l.attempts := by
  unfold setStatus
  split <;> rfl

@[simp] theorem setStatus_generation : (l.setStatus s).1.generation = l.generation := by
  unfold setStatus
  split <;> rfl

@[simp] theorem setStatus_supervisor : (l.setStatus s).1.supervisor = l.supervisor := by
  unfold setStatus
  split <;> rfl

@[simp] theorem setStatus_closing : (l.setStatus s).1.closing = l.closing := by
  unfold setStatus
  split <;> rfl

end SetStatus

/-- Whether `connect` has anything to do. -/
def mayConnect (l : Link) : Bool := l.status = .disconnected || l.status = .reconnecting

/-- Starts a new generation that connects. The supervisor so far, if any, is to be stopped, and
the closing session passes on to the new supervisor. -/
def startConnecting (l : Link) : Link × Option Change :=
  { l with outbound := none, generation := l.generation + 1, supervisor := none,
           closing := none }.setStatus .connecting

/-- The supervisor of a generation takes its place, if the generation is still the current one. -/
def adopt (l : Link) (generation supervisor : Nat) : Option Link :=
  if l.generation = generation then some { l with supervisor := some supervisor } else none

/-- The supervisor that `disconnect` stops at once: one without a session. -/
def idleSupervisor (l : Link) : Option Nat := if l.outbound.isSome then none else l.supervisor

/-- Starts a new generation that does not connect. A session closes once its queue is gone. -/
def stop (l : Link) : Link × Option Change :=
  { l with outbound := none, attempts := 0, generation := l.generation + 1, supervisor := none,
           -- without a session there is nothing new to wait for
           closing := if l.outbound.isSome ∧ l.supervisor.isSome then l.supervisor
             else l.closing }.setStatus .disconnected

/-- The session of a generation starts on a socket. -/
def startSession (l : Link) (generation socket : Nat) : Option (Link × Option Change) :=
  if l.generation = generation then
    some ({ l with outbound := some socket, attempts := 0 }.setStatus .connected)
  else none

/-- One more than a count, as long as that fits 32 bits. -/
def succ (n : UInt32) : UInt32 := if n = 0xffffffff then n else n + 1

theorem toNat_succ (n : UInt32) : (succ n).toNat = min (n.toNat + 1) 0xffffffff := by
  have hlt := n.toNat_lt
  unfold succ
  split
  · rename_i h
    subst h
    rfl
  · rename_i h
    have hne : n.toNat ≠ 0xffffffff := fun he => h (UInt32.toNat_inj.mp he)
    have hadd : (n + 1).toNat = n.toNat + 1 := by
      rw [UInt32.toNat_add]
      exact Nat.mod_eq_of_lt (by simp; omega)
    rw [hadd]
    exact (Nat.min_eq_left (by omega)).symm

/-- An attempt or a session of a generation has failed. -/
def fail (l : Link) (generation : Nat) : Option (Link × Option Change) :=
  if l.generation = generation then
    some ({ l with outbound := none, attempts := succ l.attempts }.setStatus .reconnecting)
  else none

/-- The next attempt of a generation starts. -/
def retry (l : Link) (generation : Nat) : Option (Link × Option Change) :=
  if l.generation = generation then some (l.setStatus .connecting) else none

/-- The socket that takes what is sent now. -/
def sendsTo (l : Link) : Option Nat := if l.status = .connected then l.outbound else none

section Current

variable {l : Link} {g socket : Nat} {t : Link × Option Change}

theorem startSession_eq_some (h : l.startSession g socket = some t) :
    l.generation = g
      ∧ t = { l with outbound := some socket, attempts := 0 }.setStatus .connected := by
  unfold startSession at h
  split at h
  · rename_i hg
    exact ⟨hg, (Option.some.inj h).symm⟩
  · exact absurd h (by simp)

theorem startSession_eq_none (h : l.startSession g socket = none) : l.generation ≠ g := by
  intro hg
  rw [startSession, if_pos hg] at h
  exact Option.some_ne_none _ h

theorem fail_eq_some (h : l.fail g = some t) :
    l.generation = g ∧ t = { l with
      outbound := none, attempts := succ l.attempts }.setStatus .reconnecting := by
  unfold fail at h
  split at h
  · rename_i hg
    exact ⟨hg, (Option.some.inj h).symm⟩
  · exact absurd h (by simp)

theorem retry_eq_some (h : l.retry g = some t) :
    l.generation = g ∧ t = l.setStatus .connecting := by
  unfold retry at h
  split at h
  · rename_i hg
    exact ⟨hg, (Option.some.inj h).symm⟩
  · exact absurd h (by simp)

theorem retry_eq_none (h : l.retry g = none) : l.generation ≠ g := by
  intro hg
  rw [retry, if_pos hg] at h
  exact Option.some_ne_none _ h

end Current

end Link

end LiveLink

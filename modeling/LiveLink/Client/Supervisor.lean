import LiveLink.Envelope
import LiveLink.Url.Parts
import LiveLink.Backoff

/-!
# Supervisors and sockets

A supervisor keeps the connection of one generation up: it waits for the session
before it to close, opens a socket, runs the session on it, and starts again
after a while whenever the attempt or the session fails. Between its steps it
rests in one of the phases here. A supervisor that is stopped goes no further
than its next rest.
-/

namespace LiveLink

/-- What a session reads from its socket. -/
inductive Incoming where
  | text (s : String)
  | binary (bytes : List UInt8)
  /-- A ping or a pong. -/
  | control
  /-- The other side closes the session. -/
  | close
  /-- The connection ends without a word. -/
  | ended
  /-- The connection breaks. -/
  | broken

/-- Where a supervisor rests. -/
inductive Phase where
  /-- Not yet begun; there may be a session before it that is closing. -/
  | fresh (previous : Option Nat)
  /-- Waits for the supervisor before it, until a time at the latest. -/
  | waiting (previous deadline : Nat)
  /-- Waits for the answer to its request. -/
  | opening (url : Url)
  /-- Runs a session on a socket. -/
  | inSession (socket : Nat)
  /-- Has told the other side that the session is over. -/
  | closing (socket : Nat)
  /-- Waits before the next attempt. -/
  | sleeping (deadline : Nat)
  | finished
  deriving DecidableEq

/-- A supervisor. -/
structure Supervisor where
  generation : Nat
  phase : Phase
  /-- It is to go no further than its next rest. -/
  stopped : Bool
  deriving DecidableEq

/-- How long a supervisor waits for the session before it to close: five seconds. -/
def closeGrace : Span := .ofMillis 5000

/-- The socket of a session: what was accepted for it and is not written yet. -/
structure Socket where
  queue : List Envelope

end LiveLink

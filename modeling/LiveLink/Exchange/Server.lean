import LiveLink.Client.Action

/-!
# A server on the other side

A server that does with requests what it is told to: it accepts them, keeps them
waiting, rejects them or hangs up. It numbers the requests and records what it
sees of each. A host that cannot be reached sees nothing, and every attempt to
open a socket to it fails.
-/

namespace LiveLink

/-- How a server treats a request. -/
inductive Treatment where
  | accept
  | hold
  | reject
  | hangUp
  deriving DecidableEq

namespace Treatment

/-- The word a server records a request with. -/
def verb : Treatment → String
  | accept => "open"
  | hold => "hold"
  | reject => "reject"
  | hangUp => "drop"

end Treatment

/-- How far a request has come. -/
inductive CallState where
  /-- It is left without an answer. -/
  | held
  /-- The answer is under way. -/
  | answering (accepted : Bool)
  /-- A session runs. -/
  | running
  | over
  deriving DecidableEq

/-- A request and what comes of it. -/
structure Call where
  supervisor : Nat
  target : String
  state : CallState
  /-- What was sent to the client and is not read yet. -/
  inbox : List Incoming

/-- What a server sees of a request. -/
inductive Sight where
  /-- The request comes, for a path and a query. -/
  | request (t : Treatment) (target : String)
  | frame (e : Envelope)
  /-- The client closes the session. -/
  | close
  /-- The client gives up a request that was kept waiting. -/
  | gone

/-- A server. Requests are numbered from zero in the order they come. -/
structure Server where
  reachable : Bool
  treatment : Treatment
  calls : List Call
  /-- What was seen of which request, the last first. -/
  seen : List (Nat × Sight)

namespace Server

/-- No requests yet. -/
def start (reachable : Bool) : Server := ⟨reachable, .accept, [], []⟩

/-- Records what is seen of a request. -/
def see (s : Server) (number : Nat) (what : Sight) : Server :=
  { s with seen := (number, what) :: s.seen }

/-- The request of a supervisor that is not over, with its number. -/
def callOf? (s : Server) (supervisor : Nat) : Option (Nat × Call) :=
  (s.calls.zipIdx.find? fun c => c.1.supervisor = supervisor && c.1.state ≠ .over).map
    fun c => (c.2, c.1)

/-- Changes a request. -/
def setCall (s : Server) (number : Nat) (c : Call) : Server :=
  { s with calls := s.calls.set number c }

/-- A request is over. -/
def hang (s : Server) (number : Nat) (c : Call) : Server :=
  s.setCall number { c with state := .over, inbox := [] }

/-- A request comes. -/
def ring (s : Server) (supervisor : Nat) (target : String) : Server :=
  let state := match s.treatment with
    | .accept => CallState.answering true
    | .hold => .held
    | .reject | .hangUp => .answering false
  { s with calls := s.calls ++ [Call.mk supervisor target state []] }.see s.calls.length
    (.request s.treatment target)

/-- The request that is kept waiting, if there is one, is accepted. -/
def release? (s : Server) : Option Server :=
  (s.calls.zipIdx.find? fun c => c.1.state = .held).map fun (c, number) =>
    (s.setCall number { c with state := .answering true }).see number (.request .accept c.target)

/-- Something is sent to the client, if a session runs or is about to. -/
def push? (s : Server) (i : Incoming) : Option Server :=
  (s.calls.zipIdx.find? fun c => c.1.state = .running || c.1.state = .answering true).map
    fun (c, number) => s.setCall number { c with inbox := c.inbox ++ [i] }

end Server

end LiveLink

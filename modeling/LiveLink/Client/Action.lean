import LiveLink.Client.Supervising

/-!
# Actions

Everything that can happen next. A world moves by one action at a time, and an
action that is not possible gives no world. Which of the possible actions comes
next is left open, so what holds after any list of actions holds however the
supervisors, the network and the clock happen to take their turns.
-/

namespace LiveLink

/-- One thing that happens next. -/
inductive Action where
  /-- The application asks for something. -/
  | command (c : Command)
  /-- The code that runs goes on by one step. -/
  | go
  /-- A supervisor whose wait is over goes on. -/
  | wake (supervisor : Nat)
  /-- A stopped supervisor is dropped where it rests. -/
  | halt (supervisor : Nat)
  /-- The request of a supervisor is answered. -/
  | answered (supervisor : Nat) (accepted : Bool)
  /-- A session writes. -/
  | write (supervisor : Nat)
  /-- A session fails to write. -/
  | breakWrite (supervisor : Nat)
  /-- A session reads. -/
  | read (supervisor : Nat) (i : Incoming)
  /-- A session that was closing is over. -/
  | closed (supervisor : Nat)
  /-- Time passes. -/
  | pass (nanos : Nat)

namespace World

/-- The next step of a supervisor, if no other code runs. Only a stopped one is dropped, and a
stopped one does nothing else. -/
def supervisorStep (w : World) (id : Nat) (stopped : Bool)
    (step : World → Nat → Supervisor → Option World) : Option World :=
  match w.stack, w.supervisors[id]? with
  | [], some s => if s.stopped = stopped then step w id s else none
  | _, _ => none

/-- The world after an action, if the action is possible. -/
def act (w : World) : Action → Option World
  | .command c => if w.stack.isEmpty then some ({ w with reply := none }.perform c) else none
  | .go => w.go
  | .wake id => w.supervisorStep id false wake
  | .halt id => w.supervisorStep id true halt
  | .answered id accepted => w.supervisorStep id false fun w id s => w.answered id s accepted
  | .write id => w.supervisorStep id false write
  | .breakWrite id => w.supervisorStep id false breakWrite
  | .read id i => w.supervisorStep id false fun w id s => w.read id s i
  | .closed id => w.supervisorStep id false closed
  | .pass nanos => if w.stack.isEmpty then some { w with clock := w.clock + nanos } else none

/-- The world after actions, if all of them are possible. -/
def actAll (w : World) : List Action → Option World
  | [] => some w
  | a :: rest => (w.act a).bind fun w => w.actAll rest

end World

end LiveLink

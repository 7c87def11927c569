import LiveLink.Client.Action

/-!
# Running to the end

The code on the stack goes on until nothing is left of it. Handlers may call
each other without end, so the number of steps is bounded.
-/

namespace LiveLink.World

/-- More steps than any command takes whose handlers do not call each other without end. -/
def patience : Nat := 1000000

/-- Lets the code that runs go on, at most so many steps. -/
def runStack : Nat → World → World
  | 0, w => w
  | n + 1, w =>
    match w.go with
    | none => w
    | some next => runStack n next

/-- Carries a command out and lets it come to its end. -/
def run (w : World) (c : Command) : World :=
  match w.act (.command c) with
  | some begun => runStack patience begun
  | none => w

/-- What happened since the last look, in order, and the world without it. -/
def look (w : World) : List Event × World := (w.history.reverse, { w with history := [] })

end LiveLink.World

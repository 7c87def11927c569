import LiveLink.Client.Registering
import LiveLink.Client.Sending

/-!
# Views on a client

A view registers for its topics, announces itself on every connection, and takes
everything back when it ends. What it shows stays with its number.
-/

namespace LiveLink.World

/-- The view of a number. -/
def viewOf? (w : World) (adapter : Nat) : Option View := (w.adapters[adapter]?).map (·.view)

/-- Puts a view in place of the one of a number. -/
def setView (w : World) (adapter : Nat) (v : View) : World :=
  { w with adapters := w.adapters.modify adapter ({ · with view := v }) }

/-- Registers a handler for each topic, in order; gives the topics with their numbers. -/
def addHandlers (w : World) (h : Handler) : List String → World × List (String × Nat)
  | [] => (w, [])
  | topic :: rest =>
    let (w, id) := w.addHandler (.topic topic) h
    let (w, ids) := w.addHandlers h rest
    (w, (topic, id) :: ids)

/-- Tells the server what a view wants. -/
def announce (w : World) (adapter : Nat) : World :=
  match w.viewOf? adapter with
  | some v => w.sendAll v.announcements
  | none => w

/-- Starts a view; gives its number. It announces itself at once if there is a connection, and
whenever there is one again. -/
def startView (w : World) (v : View) : World × Nat :=
  let number := w.adapters.length
  let (w, handlers) := w.addHandlers (.view number) v.topics
  let w := { w with adapters := w.adapters ++ [Adapter.mk v handlers 0 true] }
  -- for the connection there is now; the listener is for those to come
  let w := if w.link.status = .connected then w.announce number else w
  let (w, listener) := w.addListener (.view number)
  ({ w with adapters := w.adapters.modify number ({ · with listener := listener }) }, number)

/-- Ends a view: withdraws its registrations, then tells the server. -/
def endView (w : World) (number : Nat) : World :=
  match w.adapters[number]? with
  | none => w
  | some a =>
    let w := { w with adapters := w.adapters.modify number ({ · with live := false }) }
    let w := a.handlers.foldl (fun w h => w.withdraw (.router (.topic h.1)) h.2) w
    let w := w.withdraw .board a.listener
    -- another view of the notifications may still be there
    w.sendAll (a.view.farewells !(w.router.forTopic "notification.new").isEmpty)

/-- Ends the view that a name had before, if there is one. -/
def endFormer (w : World) (former : Option Nat) : World :=
  match former with
  | some number => w.endView number
  | none => w

end LiveLink.World

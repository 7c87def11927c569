import LiveLink.Client.World

/-!
# Registering and withdrawing

Subscriptions of the application go by names. A name that is used again forgets
its earlier subscription, which stays registered.
-/

namespace LiveLink.World

/-- Registers a handler with the router; gives its number. -/
def addHandler (w : World) (scope : Scope) (h : Handler) : World × Nat :=
  let id := w.router.nextId
  ({ w with router := w.router.register scope h }.happen
    (.subscribed (.router scope) id), id)

/-- Registers a listener; gives its number. -/
def addListener (w : World) (l : Listener) : World × Nat :=
  let id := w.board.nextId
  ({ w with board := w.board.register l }.happen (.subscribed .board id), id)

/-- Withdraws a registration. -/
def withdraw (w : World) (place : Place) (id : Nat) : World :=
  let w := w.happen (.unsubscribed place id)
  match place with
  | .router scope => { w with router := w.router.withdraw scope id }
  | .board => { w with board := w.board.withdraw id }

/-- Keeps a subscription under a name. -/
def keep (w : World) (name : String) (place : Place) (id : Nat) : World :=
  { w with subscriptions := w.subscriptions.insert name ⟨id, place, true⟩ }

/-- Registers a handler under a name. -/
def subscribe (w : World) (name : String) (scope : Scope) (h : Handler) : World × Nat :=
  let (w, id) := w.addHandler scope h
  (w.keep name (.router scope) id, id)

/-- Registers a listener under a name. -/
def listen (w : World) (name : String) (l : Listener) : World × Nat :=
  let (w, id) := w.addListener l
  (w.keep name .board id, id)

/-- Withdraws the subscription of a name. The name is kept; to withdraw it again does nothing. -/
def unsubscribe (w : World) (name : String) (s : Subscription) : World :=
  if s.active then
    { w with subscriptions := w.subscriptions.insert name { s with active := false } }.withdraw
      s.place s.id
  else w

/-- A subscription as text. -/
def describeSubscription (s : Subscription) : String :=
  "Subscription \x7b id: " ++ toString s.id ++ ", active: " ++
    (if s.active then "true" else "false") ++ " \x7d"

end LiveLink.World

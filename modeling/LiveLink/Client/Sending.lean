import LiveLink.Client.World

/-!
# Sending

An envelope is accepted only while the client is connected, and then for the
socket of the session. Nothing is kept for a later session.
-/

namespace LiveLink.World

/-- Puts an envelope on the queue of a socket. -/
def enqueue (w : World) (socket : Nat) (e : Envelope) : World :=
  { w with sockets := w.sockets.modify socket fun s => { s with queue := s.queue ++ [e] } }.happen
    (.queued socket e)

/-- Sends a payload. The flag tells whether it was accepted. -/
def sendPayload (w : World) (topic : String) (payload : Json) : World × Bool :=
  let (w, e) := w.newEnvelope topic payload
  match w.link.sendsTo with
  | some socket => (w.enqueue socket e, true)
  | none => (w, false)

/-- Sends one payload after another. -/
def sendAll (w : World) (notices : List Notice) : World :=
  notices.foldl (fun w n => (w.sendPayload n.1 n.2).1) w

end LiveLink.World

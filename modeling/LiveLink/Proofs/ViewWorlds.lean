import LiveLink.Proofs.StatusHistory
import LiveLink.Proofs.ViewMessages

/-!
# What is seen of the views

Whom the client calls when it is connected, and what is said for whom, depends on few
things in a world: on the views and their names, on who listens to the status, on the
session that takes what is sent, on what was sent so far, and on whom the delivery of
a *connected* has still to call. A `ViewWorld` holds these, and most of what goes on leaves
them alone. This file goes through the client's functions once and says so of each;
what is left are the moves that views have a part in.
-/

namespace LiveLink.Proofs

open LiveLink Relation

/-- The kinds of views. -/
inductive ViewKind where
  | chat
  | notices
  | health
  deriving DecidableEq

/-- The kind of a view, by what it wants. -/
def viewKind : Interest → ViewKind
  | .chat _ => .chat
  | .notices => .notices
  | .health _ => .health

/-- The names that the application has for views of a kind. -/
def names (w : World) : ViewKind → Table Nat
  | .chat => w.rooms
  | .notices => w.feeds
  | .health => w.monitors

/-- The views among those who listen. -/
def callees (listeners : List (Entry Listener)) : List Nat :=
  listeners.filterMap fun l => callee l.handler

/-- The views that code has still to call with *connected*. -/
def called : Frame → List Nat
  | .announcement c rest => if c.status = .connected then callees rest else []
  | _ => []

def calling (stack : List Frame) : List Nat := stack.flatMap called

/-- What is seen of the views, and of what matters to them. -/
structure ViewWorld where
  adapters : List Adapter
  names : ViewKind → Table Nat
  handles : Table Subscription
  listeners : List (Entry Listener)
  nextId : Nat
  /-- What was sent so far. -/
  queued : List (Nat × Notice)
  /-- The socket that takes what is sent now. -/
  socket : Option Nat
  sockets : Nat
  /-- The views that are still to be called with *connected*. -/
  calling : List Nat
  /-- A *connected* waits to be delivered. -/
  due : Bool

def viewWorld (w : World) : ViewWorld where
  adapters := w.adapters
  names := names w
  handles := w.subscriptions
  listeners := w.board.listeners
  nextId := w.board.nextId
  queued := inOrder queued? w.history
  socket := w.link.sendsTo
  sockets := w.sockets.length
  calling := calling w.stack
  due := w.board.pending.any (·.status = .connected)

variable {w w' : World}

@[simp] theorem calling_cons (f : Frame) (tail : List Frame) :
    calling (f :: tail) = called f ++ calling tail := rfl

/-- Of the code that runs only those count whom it has still to call with *connected*. -/
theorem viewWorld_stack (w : World) {stack : List Frame} (h : calling stack = calling w.stack) :
    viewWorld { w with stack := stack } = viewWorld w := by
  unfold viewWorld
  rw [← h]
  rfl

theorem viewWorld_push (w : World) {f : Frame} (h : called f = []) :
    viewWorld (w.push f) = viewWorld w := by
  refine viewWorld_stack w ?_
  rw [calling_cons, h, List.nil_append]

theorem viewWorld_pop {f : Frame} {tail : List Frame} (hs : w.stack = f :: tail)
    (h : called f = []) : viewWorld { w with stack := tail } = viewWorld w := by
  refine viewWorld_stack w ?_
  rw [hs, calling_cons, h, List.nil_append]

theorem viewWorld_replace {f g : Frame} {tail : List Frame} (hs : w.stack = f :: tail)
    (h : called g = called f) : viewWorld { w with stack := g :: tail } = viewWorld w := by
  refine viewWorld_stack w ?_
  rw [hs, calling_cons, calling_cons, h]

/-- Of the history only the messages count. -/
theorem viewWorld_happen (w : World) {e : Event} (he : queued? e = none) :
    viewWorld (w.happen e) = viewWorld w := by
  have hqueued : inOrder queued? (w.happen e).history = inOrder queued? w.history :=
    inOrder_of_none he w.history
  unfold viewWorld
  rw [← hqueued]
  rfl

/-! ## Whom a delivery calls -/

section Called

variable {c : Change} {l : Entry Listener} {rest : List (Entry Listener)}

@[simp] theorem called_nil (c : Change) : called (.announcement c []) = [] := by
  simp [called, callees]

/-- No other status makes a view announce itself. -/
theorem called_of_ne (hc : c.status ≠ .connected) : called (.announcement c rest) = [] := if_neg hc

theorem called_app (hl : callee l.handler = none) :
    called (.announcement c (l :: rest)) = called (.announcement c rest) := by
  simp [called, callees, hl]

/-- When the client connects, a view that listens is called at its turn. -/
theorem called_view {n : Nat} (hc : c.status = .connected) (hl : callee l.handler = some n) :
    called (.announcement c (l :: rest)) = n :: called (.announcement c rest) := by
  simp [called, callees, hl, hc]

end Called

/-! ## Replies and calls -/

@[simp] theorem viewWorld_answer (w : World) (r : Reply) :
    viewWorld (w.answer r) = viewWorld w := by
  unfold World.answer
  split
  · rfl
  · rename_i owner rest verb tail hs
    exact (viewWorld_happen _ rfl).trans (viewWorld_replace hs rfl)
  · rfl

@[simp] theorem viewWorld_complete (w : World) : viewWorld w.complete = viewWorld w := by
  unfold World.complete
  split
  · rename_i n e rest k tail hs
    exact viewWorld_replace hs rfl
  · rfl

@[simp] theorem viewWorld_failCall (w : World) (m : Option String) :
    viewWorld (w.failCall m) = viewWorld w := by
  unfold World.failCall
  split
  · exact (viewWorld_happen _ rfl).trans (viewWorld_happen _ rfl)
  · exact viewWorld_happen _ rfl

/-- Counters, replies and the parts that can be reached are not seen. -/
theorem viewWorld_alike (h : Alike w w') : viewWorld w' = viewWorld w := by
  have hnames : names w' = names w := by
    funext g
    cases g with
    | chat => exact h.rooms
    | notices => exact h.feeds
    | health => exact h.monitors
  rw [viewWorld, hnames, h.adapters, h.subscriptions, h.board, h.history, h.link, h.sockets,
    h.stack]
  rfl

/-! ## The connection -/

/-- What was seen is still seen, except that there may be no session any more. -/
inductive KeepsViews (w w' : World) : Prop where
  | still (h : viewWorld w' = viewWorld w)
  | cut (h : viewWorld w' = { viewWorld w with socket := none })

/-- A session that is lost once stays lost. -/
theorem KeepsViews.trans {v : World} (h : KeepsViews w v) (h' : KeepsViews v w') :
    KeepsViews w w' := by
  cases h' with
  | still h' =>
      cases h with
      | still h => exact .still (h'.trans h)
      | cut h => exact .cut (h'.trans h)
  | cut h' =>
      cases h with
      | still h => exact .cut (by rw [h', h])
      | cut h => exact .cut (by rw [h', h])

@[simp] theorem viewWorld_stopSupervisor (w : World) (id : Option Nat) :
    viewWorld (w.stopSupervisor id) = viewWorld w := by
  cases id <;> rfl

/-- A change that is put on the queue is seen only if it is *connected*: then calls become due. -/
theorem viewWorld_offer (w : World) (c : Change) : viewWorld (offer w c) =
    { viewWorld w with due := (viewWorld w).due || c.status = .connected } := by
  -- an announcement that has taken no change yet calls nobody
  have hcalling : calling (offer w c).stack = calling w.stack := by
    unfold offer
    cases w.board.draining <;> simp
  have hqueued : inOrder queued? (offer w c).history = inOrder queued? w.history :=
    inOrder_of_none rfl w.history
  unfold viewWorld
  rw [hcalling, hqueued]
  simp [offer, Board.post]
  rfl

/-- What `World.turn` adds to a shift is not seen of the views. -/
theorem viewWorld_turn (w : World) (t : Link × Option Change) :
    viewWorld (w.turn t) = viewWorld (shift w t) := by
  obtain ⟨l, change⟩ := t
  cases change with
  | none => exact viewWorld_answer _ _
  | some c =>
      show viewWorld (World.announceChange _ c) = viewWorld (offer _ c)
      rw [announceChange_eq]
      split
      · exact viewWorld_answer _ _
      · rfl

/-- A *connected* is due as long as one is on the queue. -/
theorem due_pending {new : Change} {rest : List Change} (hp : w.board.pending = new :: rest) :
    (viewWorld w).due = (decide (new.status = .connected) || rest.any (·.status = .connected)) := by
  simp [viewWorld, hp]

/-- A delivery that is through takes the next change and calls everybody who listens. -/
theorem viewWorld_nextChange {c new : Change} {rest : List Change} {tail : List Frame}
    (hs : w.stack = .announcement c [] :: tail) (hp : w.board.pending = new :: rest)
    (hnew : w.board.delivered < new.number) :
    viewWorld ({ w with stack := tail }.nextChange c) = { viewWorld w with
      calling := called (.announcement new w.board.listeners) ++ (viewWorld w).calling
      due := rest.any (·.status = .connected) } := by
  have hpop : viewWorld { w with stack := tail } = viewWorld w := viewWorld_pop hs (called_nil c)
  -- newer than what was delivered, so it is not skipped
  unfold World.nextChange
  rw [Board.take_of_lt hp hnew, ← hpop]
  simp [viewWorld, World.push, World.happen, queued?]
  rfl

/-- The status becomes another one than *connected*, so nothing is sent any more. -/
theorem viewWorld_shift_down (w : World) (l : Link) {s : Status} (hs : s ≠ .connected) :
    viewWorld (shift w (l.setStatus s)) = { viewWorld w with socket := none } := by
  have hnone : (l.setStatus s).1.sendsTo = none := by
    rw [Link.sendsTo, Link.setStatus_status, if_neg hs]
  have hlink : viewWorld { w with link := (l.setStatus s).1 }
      = { viewWorld w with socket := none } := by
    rw [← hnone]
    rfl
  unfold shift
  cases hc : (l.setStatus s).2 with
  | none => exact hlink
  | some c =>
      have hstatus : c.status = s := by
        unfold Link.setStatus at hc
        split at hc
        · exact absurd hc (by simp)
        · rw [← Option.some.inj hc]
      dsimp only
      -- no call becomes due, as the change is not to *connected*
      rw [viewWorld_offer, viewWorld_happen _ rfl, hlink, hstatus]
      simp [hs]

/-- A change to any other status loses the session at most. -/
theorem keepsViews_shift {v : World} (l : Link) {s : Status} (hs : s ≠ .connected)
    (hv : viewWorld v = viewWorld w) : KeepsViews w (shift v (l.setStatus s)) :=
  .cut ((viewWorld_shift_down v l hs).trans (by rw [hv]))

@[simp] theorem viewWorld_startSupervisor (w : World) (g : Nat) (previous : Option Nat) :
    viewWorld (w.startSupervisor g previous) = viewWorld w := by
  unfold World.startSupervisor
  dsimp only
  split
  · rename_i link hlink
    unfold Link.adopt at hlink
    split at hlink
    · obtain rfl := Option.some.inj hlink
      rfl
    · exact absurd hlink (by simp)
  · rfl

@[simp] theorem viewWorld_warn (w : World) (topic : Option String) (m : String) :
    viewWorld (w.warn topic m) = viewWorld w := viewWorld_happen w rfl

@[simp] theorem viewWorld_rest (w : World) (id : Nat) (p : Phase) :
    viewWorld (w.rest id p) = viewWorld w :=
  rfl

@[simp] theorem viewWorld_finish (w : World) (id : Nat) : viewWorld (w.finish id) = viewWorld w :=
  viewWorld_happen _ rfl

@[simp] theorem viewWorld_dial (w : World) (id : Nat) (s : Supervisor) :
    viewWorld (w.dial id s) = viewWorld w := viewWorld_happen _ rfl

@[simp] theorem viewWorld_resume (w : World) (id : Nat) (next : Resumption) :
    viewWorld (w.resume id next) = viewWorld w := by
  unfold World.resume
  split <;> simp

/-- An envelope that a failed session loses was queued long before. -/
theorem viewWorld_leftover {s : Supervisor} {sockets : List Socket} (h : Leftover w s sockets) :
    viewWorld { w with sockets := sockets } = viewWorld w := by
  cases h with
  | whole => rfl
  | short hp hq =>
      simp [viewWorld]
      rfl

/-! ## What views have no part in -/

/-- An action that views have no part in: it registers none of them, queues no message for one and
calls none, and neither begins a session nor delivers a change. -/
structure Viewless (u : World) (act : Action) : Prop where
  registers : ¬ Commanded registers u act
  tellsServer : ¬ MayTell u act
  viewCall : ∀ n, ¬ CallsView n u act
  opens : ∀ id, act ≠ .answered id true
  announces : act = .go → ∀ c rest tail, u.stack ≠ .announcement c rest :: tail

variable {u : World} {act : Action}

/-- **A data step of an action without views is not seen.** -/
theorem data_viewWorld (h : DataStep u act w w') (hu : Viewless u act) :
    viewWorld w' = viewWorld w := by
  cases h with
  | counters h => exact viewWorld_alike h
  | handles t hy => exact absurd hy hu.registers
  | names rooms feeds monitors hy => exact absurd hy hu.registers
  | adapters l hy => exact absurd hy hu.registers
  | setView n v hy =>
      rcases hy with hy | hy
      · exact absurd (.tellsServer hy) hu.tellsServer
      · exact absurd hy (hu.viewCall n)
  | report e he =>
      -- a report is never a message to the server
      refine viewWorld_happen w ?_
      cases e with
      | queued k e => exact absurd he (by simp [isReport])
      | _ => rfl
  | token t hy => rfl
  | addHandler s a hy => exact absurd hy hu.registers
  | addListener l hy => exact absurd hy hu.registers
  | withdraw p id hy => exact absurd hy hu.registers
  | enqueue e hs hy => exact absurd hy hu.tellsServer
  | script cs' a' hs => exact viewWorld_replace hs rfl
  | returned hs ha => exact (viewWorld_complete _).trans (viewWorld_pop hs rfl)
  | failed m hs => exact (viewWorld_failCall _ m).trans (viewWorld_pop hs rfl)
  | dispatch e hw hy => exact (viewWorld_push _ rfl).trans (viewWorld_happen _ rfl)
  | called o cs hs ha =>
      refine (viewWorld_happen _ rfl).trans (viewWorld_stack w ?_)
      rw [hs]
      rfl
  | calledOnce hs ha => exact (viewWorld_happen _ rfl).trans (viewWorld_replace hs rfl)
  | ended hs ha => exact (viewWorld_happen _ rfl).trans (viewWorld_pop hs rfl)

/-- **What views have no part in may end the session, and changes nothing else that is seen.** -/
theorem step_keepsViews (hb : w.parts.board = false) (h : SmallStep u act w w')
    (hu : Viewless u act) : KeepsViews w w' := by
  -- no change is under way when such an action begins, and only a delivery goes on with one
  have quiet : ∀ {p : Prop} {c : Change} {rest : List (Entry Listener)} {tail : List Frame},
      w.stack = .announcement c rest :: tail → act = .go ∧ w = u → p := by
    rintro p c rest tail hs ⟨ha, rfl⟩
    exact absurd hs (hu.announces ha c rest tail)
  cases h with
  | data h => exact .still (data_viewWorld h hu)
  | announce c hw hboard => exact absurd (hb.symm.trans hboard) (by simp)
  | heardOnce hs ha => exact quiet hs ha
  | heard o cs hs ha => exact quiet hs ha
  | drained hs hp ha => exact quiet hs ha
  | skipped hs hp hd ha => exact quiet hs ha
  | announced hs hp hd ha => exact quiet hs ha
  | connect hy hw hr hm =>
      refine keepsViews_shift _ Status.noConfusion ?_
      exact (viewWorld_push _ rfl).trans (viewWorld_stopSupervisor w _)
  | disconnect hy hw => exact keepsViews_shift _ Status.noConfusion (viewWorld_stopSupervisor w _)
  | start hs ha => exact .still ((viewWorld_startSupervisor _ _ _).trans (viewWorld_pop hs rfl))
  | resume hs ha => exact .still ((viewWorld_resume _ _ _).trans (viewWorld_pop hs rfl))
  | dial hr hs hp ha => exact .still (viewWorld_dial w _ _)
  | giveUp hr hs hp hf hd ha =>
      exact .still ((viewWorld_dial _ _ _).trans (viewWorld_stopSupervisor w _))
  | retry hy hr hs hp hd ht =>
      obtain ⟨-, rfl⟩ := Link.retry_eq_some ht
      exact keepsViews_shift _ Status.noConfusion (viewWorld_push _ rfl)
  | leave hr hs hg hl => exact .still ((viewWorld_finish _ _).trans (viewWorld_leftover hl))
  | halt hr hs hp => exact .still (viewWorld_finish w _)
  | opened hy hr hs hp ht ha => exact absurd ha (hu.opens _)
  | failed hy hr hs hp ht hl =>
      obtain ⟨-, rfl⟩ := Link.fail_eq_some ht
      refine keepsViews_shift _ Status.noConfusion ?_
      exact (viewWorld_push _ rfl).trans ((viewWorld_happen _ rfl).trans (viewWorld_leftover hl))
  | dropped hr hp => exact .still (viewWorld_happen w rfl)
  | wrote hr hs hp hq =>
      exact .still ((viewWorld_happen _ rfl).trans (viewWorld_leftover (.short hp hq)))
  | wroteClose hr hs hp hq ho =>
      exact .still ((viewWorld_happen _ rfl).trans (viewWorld_rest w _ _))
  | read i hr hs hp => exact .still (viewWorld_happen w rfl)
  | enter hr hs hp => exact .still (viewWorld_push _ rfl)
  | _ => exact .still rfl

/-- So no action without views does more than lose the session. -/
theorem steps_keepsViews (hb : w.parts.board = false) (h : SmallSteps u act w w')
    (hu : Viewless u act) : KeepsViews w w' := by
  suffices hall : w'.parts.board = false ∧ KeepsViews w w' from hall.2
  induction h with
  | refl => exact ⟨hb, .still rfl⟩
  | tail _ hd ih => exact ⟨step_own hd ih.1, ih.2.trans (step_keepsViews ih.1 hd hu)⟩

/-- A command that neither changes registrations nor tells the server anything. -/
theorem viewless_command {c : Command} (ht : registers c = false) (hs : tellsServer c = false) :
    Viewless w (.command c) where
  registers := by
    rintro ⟨c', hc, hyes⟩
    obtain rfl := Cause.asked.inj hc
    exact absurd (ht.symm.trans hyes) (by simp)
  tellsServer := by
    rintro (⟨c', hc, hyes⟩ | ⟨c', hc, hyes⟩ | ⟨ha⟩)
    · obtain rfl := Cause.asked.inj hc
      exact absurd (hs.symm.trans hyes) (by simp)
    · obtain rfl := Cause.asked.inj hc
      exact absurd (ht.symm.trans hyes) (by simp)
    · exact Action.noConfusion ha
  viewCall := fun n h => Action.noConfusion h.1
  opens := fun id h => Action.noConfusion h
  announces := fun h => Action.noConfusion h

/-- An action that carries out no command, and neither calls anyone nor begins a session. -/
theorem viewless_other (hc : ∀ c, cause w act ≠ .asked c) (ho : ∀ id, act ≠ .answered id true)
    (hd : act = .go → ∀ n e l rest k tail, w.stack ≠ .delivery n e (l :: rest) k :: tail)
    (ha : act = .go → ∀ c rest tail, w.stack ≠ .announcement c rest :: tail) :
    Viewless w act where
  registers := fun ⟨c, hy, _⟩ => hc c hy
  tellsServer := by
    rintro (⟨c, hy, -⟩ | ⟨c, hy, -⟩ | ⟨hgo, hs, -, -⟩)
    · exact hc c hy
    · exact hc c hy
    · exact ha hgo _ _ _ hs
  viewCall := fun n ⟨hgo, k, e, l, rest, done, tail, hs, _⟩ => hd hgo k e l rest done tail hs
  opens := ho
  announces := ha

/-! ## A session that begins -/

/-- A session begins: from now on it takes what is sent, and a *connected* is due. -/
theorem answered_viewWorld {id : Nat} {s : Supervisor}
    (hup : w.link.generation = s.generation → w.link.status ≠ .connected)
    (hidle : w.board.draining = false) (h : w.answered id s true = some w') :
    KeepsViews w w' ∨ w.link.status ≠ .connected
      ∧ viewWorld w' = { viewWorld w with
          socket := some w.sockets.length
          sockets := w.sockets.length + 1
          due := true }
      ∧ ∃ c, w'.stack = .announcement c [] :: .supervisor id (.session w.sockets.length) :: w.stack
          ∧ w'.board.pending = w.board.pending ++ [c] := by
  unfold World.answered at h
  split at h
  · simp only [if_true] at h
    split at h <;> obtain rfl := Option.some.inj h
    · exact .inl (.still rfl)
    · rename_i t ht
      obtain ⟨hg, rfl⟩ := Link.startSession_eq_some ht
      -- the generation is the current one, so the client was not connected before
      have hdown := hup hg
      refine .inr ⟨hdown, ?_⟩
      have hstatus : Link.setStatus { w.link with
          outbound := some w.sockets.length, attempts := 0 } .connected
          = ({ w.link with outbound := some w.sockets.length, attempts := 0,
                           status := .connected, changes := w.link.changes + 1 },
            some ⟨w.link.changes + 1, .connected⟩) := if_neg hdown
      rw [hstatus]
      refine ⟨?_, ⟨w.link.changes + 1, .connected⟩, ?_⟩
      · rw [viewWorld_turn]
        unfold shift
        dsimp only
        rw [viewWorld_offer, viewWorld_happen _ rfl]
        simp [viewWorld, World.push, World.happen, World.rest, Link.sendsTo, called, queued?]
        rfl
      · unfold World.turn World.announceChange
        dsimp only
        -- no delivery is under way, so this one begins
        rw [if_neg (by simpa [World.happen, World.push, World.rest] using hidle)]
        exact ⟨rfl, rfl⟩
  · exact absurd h (by simp)

/-! ## Commands -/

/-- A command is carried out in a world that looks the same, for someone who may ask, and not while
a change is about to be taken. -/
theorem asked_viewWorld {a : Action} {c : Command} (hc : cause w a = .asked c)
    (h : w.act a = some w') : ∃ r stack, w' = { w with reply := r, stack := stack }.perform c
      ∧ viewWorld { w with reply := r, stack := stack } = viewWorld w
      ∧ Asking { w with reply := r, stack := stack }
      ∧ ∀ c tail, w.stack ≠ .announcement c [] :: tail := by
  obtain ⟨r, stack, rfl, hstack⟩ := act_asked hc h
  refine ⟨r, stack, rfl, ?_⟩
  rcases hstack with ⟨hs, rfl⟩ | ⟨o, rest, verb, tail, hs, rfl⟩
  · exact ⟨by rw [← hs]; rfl, asking_nil rfl, by simp [hs]⟩
  · exact ⟨viewWorld_replace hs rfl, asking_script rfl, by simp [hs]⟩

end LiveLink.Proofs

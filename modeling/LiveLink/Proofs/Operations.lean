import LiveLink.Client.Action
import Mathlib.Logic.Relation

/-!
# What commands are made of

There are many commands and few things that they do: give a reply, register or
withdraw someone, start or end a view, send, begin a delivery, connect,
disconnect. `perform_operations` takes every command apart into these **operations**,
once. Each operation is a function of the client's own, and says under which command
it is run wherever that is what keeps the others from doing it; so what all operations
of a command keep is kept by the command.
-/

namespace LiveLink.Proofs

open LiveLink Relation

/-- What is only noted for a reader. -/
def isReport : Event → Bool
  | .noted _ | .warned .. => true
  | _ => false

def isScript : Frame → Bool
  | .script .. => true
  | _ => false

/-- A command can be carried out: no code runs, or the code that runs is a handler. -/
def Asking (w : World) : Prop := ∀ f ∈ w.stack.head?, isScript f

theorem asking_nil {w : World} (hs : w.stack = []) : Asking w := by simp [Asking, hs]

/-- A handler may ask for something while it runs. -/
theorem asking_script {w : World} {o : String} {cs : List Command} {a : Option String}
    {tail : List Frame} (hs : w.stack = .script o cs a :: tail) : Asking w := by
  simp [Asking, hs, isScript]

/-- The commands that change who is registered, or what the application holds of that. -/
def registers : Command → Bool
  | .subscribe .. | .subscribeTyped .. | .listen .. | .unsubscribe _ | .forget _
  | .joinChat .. | .leaveChat _ | .openFeed _ | .closeFeed _ | .watch .. | .closeMonitor _ => true
  | _ => false

/-- The commands that hand an envelope to the router. -/
def dispatches : Command → Bool
  | .receiveFrame _ | .dispatch .. => true
  | _ => false

/-- The commands that tell the server something of their own, or change what a view wants from
it. -/
def tellsServer : Command → Bool
  | .send .. | .say .. | .moderate .. | .markRead .. | .markAllRead _ | .addStream ..
  | .removeStream .. => true
  | _ => false

/-- One thing that is done on the way of a command. -/
inductive Operation (c : Command) (w : World) : World → Prop where
  | answer (r : Reply) : Operation c w (w.answer r)
  | report (e : Event) (he : isReport e = true) : Operation c w (w.happen e)
  /-- A stamp is used up. -/
  | stamp : Operation c w { w with stamped := w.stamped + 1 }
  | token (t : Option String) (hc : c = .setToken t) :
      Operation c w { w with link := { w.link with token := t } }
  | dropRouter : Operation c w { w with parts := { w.parts with router := false } }
  | dropBoard : Operation c w { w with parts := { w.parts with board := false } }
  | subscribe (hc : registers c = true) (name : String) (s : Scope) (h : Handler) :
      Operation c w (w.subscribe name s h).1
  | listen (hc : registers c = true) (name : String) (l : Listener) :
      Operation c w (w.listen name l).1
  | unsubscribe {name : String} {s : Subscription} (hc : registers c = true)
      (hs : w.subscriptions.get? name = some s) : Operation c w (w.unsubscribe name s)
  | forget (hc : registers c = true) (name : String) :
      Operation c w { w with subscriptions := w.subscriptions.erase name }
  /-- The views that the application has change their names. -/
  | names (hc : registers c = true) (rooms feeds monitors : Table Nat) :
      Operation c w { w with rooms := rooms, feeds := feeds, monitors := monitors }
  | startView (hc : registers c = true) (v : View) : Operation c w (w.startView v).1
  | endView (hc : registers c = true) (number : Nat) : Operation c w (w.endView number)
  | setView (hc : tellsServer c = true) (number : Nat) (v : View) :
      Operation c w (w.setView number v)
  | send (hc : tellsServer c = true) (topic : String) (payload : Json) :
      Operation c w (w.sendPayload topic payload).1
  | dispatch (hc : dispatches c = true) (hw : Asking w) (e : Envelope) :
      Operation c w (w.dispatch e)
  /-- Someone who has the board for himself announces a change. -/
  | announce (hw : Asking w) (hb : w.parts.board = true) (change : Change) :
      Operation c w (w.announceChange change)
  | connect (hc : c = .connect) (hw : Asking w) : Operation c w w.connect
  | disconnect (hc : c = .disconnect) (hw : Asking w) : Operation c w w.disconnect
  /-- The handler that runs fails. -/
  | fail {o : String} {cs : List Command} {a : Option String} {tail : List Frame}
      (m : Option String) (hs : w.stack = .script o cs a :: tail) :
      Operation c w ({ w with stack := tail }.failCall m)

/-- Any number of operations of one command. -/
abbrev Operations (c : Command) : World → World → Prop := ReflTransGen (Operation c)

variable {c : Command}

theorem answer_operations (w : World) (r : Reply) : Operations c w (w.answer r) :=
  .single (.answer r)

/-! ## Commands that need something to be there

A command that needs a part of the client, a subscription or a view is only answered where that is
missing. So what an answer keeps, and what the command does to what is there keeps, the command
keeps. -/

section Cases

variable {w : World} {P : World → Prop} {name : String}

/-- What needs a part of the client is done if that part can still be reached. -/
theorem requiring_cases {f : World} (part : Bool) (hanswer : ∀ r, P (w.answer r))
    (h : part = true → P f) : P (w.requiring part f) := by
  unfold World.requiring
  split
  · rename_i hpart
    exact h hpart
  · exact hanswer _

/-- The application must hold a subscription of the name. -/
theorem withSubscription_cases {f : Subscription → World} (hanswer : ∀ r, P (w.answer r))
    (h : ∀ c, w.subscriptions.get? name = some c → P (f c)) : P (w.withSubscription name f) := by
  unfold World.withSubscription
  split
  · rename_i c hc
    exact h c hc
  · exact hanswer _

/-- The name must be held, and the view it stands for must be there. -/
theorem withView_cases {table : Table Nat} {f : Nat → View → World} (hanswer : ∀ r, P (w.answer r))
    (h : ∀ n v, table.get? name = some n → w.viewOf? n = some v → P (f n v)) :
    P (w.withView table name f) := by
  unfold World.withView
  split
  · exact hanswer _
  · rename_i n hn
    split
    · rename_i v hv
      exact h n v hn hv
    · exact hanswer _

/-- A name among the rooms stands for a chat; a view of another kind is as good as none. -/
theorem withRoom_cases {f : ChatView → World} (hanswer : ∀ r, P (w.answer r))
    (h : ∀ v, P (f v)) : P (w.withRoom name f) := by
  refine withView_cases hanswer fun n v _ _ => ?_
  cases v with
  | chat v => exact h v
  | notices v => exact hanswer _
  | health v => exact hanswer _

theorem withFeed_cases {f : Nat → NoticeView → World} (hanswer : ∀ r, P (w.answer r))
    (h : ∀ n v, w.viewOf? n = some (.notices v) → P (f n v)) : P (w.withFeed name f) := by
  refine withView_cases hanswer fun n v _ hv => ?_
  cases v with
  | chat v => exact hanswer _
  | notices v => exact h n v hv
  | health v => exact hanswer _

theorem withMonitor_cases {f : Nat → HealthView → World} (hanswer : ∀ r, P (w.answer r))
    (h : ∀ n v, w.monitors.get? name = some n → w.viewOf? n = some (.health v) → P (f n v)) :
    P (w.withMonitor name f) := by
  refine withView_cases hanswer fun n v hn hv => ?_
  cases v with
  | chat v => exact hanswer _
  | notices v => exact hanswer _
  | health v => exact h n v hn hv

end Cases

section Finding

variable {w : World} {name : String}

theorem requiring_operations {f : World} (part : Bool) (h : part = true → Operations c w f) :
    Operations c w (w.requiring part f) :=
  requiring_cases part (answer_operations w) h

theorem withSubscription_operations {f : Subscription → World}
    (h : ∀ s, w.subscriptions.get? name = some s → Operations c w (f s)) :
    Operations c w (w.withSubscription name f) :=
  withSubscription_cases (answer_operations w) h

theorem withRoom_operations {f : ChatView → World} (h : ∀ v, Operations c w (f v)) :
    Operations c w (w.withRoom name f) :=
  withRoom_cases (answer_operations w) h

theorem withFeed_operations {f : Nat → NoticeView → World} (h : ∀ n v, Operations c w (f n v)) :
    Operations c w (w.withFeed name f) :=
  withFeed_cases (answer_operations w) fun n v _ => h n v

theorem withMonitor_operations {f : Nat → HealthView → World} (h : ∀ n v, Operations c w (f n v)) :
    Operations c w (w.withMonitor name f) :=
  withMonitor_cases (answer_operations w) fun n v _ _ => h n v

end Finding

/-! ## Commands of one kind -/

/-- A message of the application: it is sent, and the reply says whether it was accepted. -/
theorem sendReplying_operations (hc : tellsServer c = true) (w : World) (topic : String)
    (payload : Json) : Operations c w (w.sendReplying topic payload) :=
  (ReflTransGen.single (.send hc topic payload)).tail (.answer _)

/-- A view changes what it shows, tells the server so, and the holder is answered. -/
theorem sendAndAnswer_operations (hc : tellsServer c = true) (w : World) (number : Nat) (v : View)
    (topic : String) (payload : Json) (r : Reply) :
    Operations c w (((w.setView number v).sendPayload topic payload).1.answer r) :=
  ((ReflTransGen.single (.setView hc number v)).tail (.send hc topic payload)).tail (.answer r)

theorem endFormer_operations (hc : registers c = true) (w : World) (former : Option Nat) :
    Operations c w (w.endFormer former) := by
  cases former with
  | none => exact .refl
  | some number => exact .single (.endView hc number)

/-- A view starts under a name before the one that had the name ends. -/
theorem startNamed_operations (hc : registers c = true) (w : World) (former : Option Nat) (v : View)
    {keep : World → Nat → World} (h : ∀ w n, Operation c w (keep w n)) :
    Operations c w (w.startNamed former v keep) := by
  have hstart : Operations c w (w.startView v).1 := .single (.startView hc v)
  exact ((hstart.tail (h _ _)).trans (endFormer_operations hc _ former)).tail (.answer _)

/-- A name is given up before the view that had it ends. -/
theorem endNamed_operations (hc : registers c = true) (w : World) (names : Table Nat)
    (name : String) {drop : World → World} (h : ∀ w, Operation c w (drop w)) :
    Operations c w (w.endNamed names name drop) := by
  unfold World.endNamed
  split
  · rename_i number hname
    exact ((ReflTransGen.single (h w)).tail (.endView hc number)).tail (.answer _)
  · exact answer_operations w _

theorem subscribing_operations (hc : registers c = true) (w : World) (name : String) (s : Scope)
    (h : Handler) :
    Operations c w ((w.subscribe name s h).1.answer (.count (w.subscribe name s h).2)) :=
  (ReflTransGen.single (.subscribe hc name s h)).tail (.answer _)

/-- A frame uses a stamp up even if it brings none of its own; one that cannot be read is only noted
and answered. -/
theorem dispatchFrame_operations {w : World} (hc : dispatches c = true) (hw : Asking w)
    (frame : String) : Operations c w (w.dispatchFrame frame) := by
  unfold World.dispatchFrame
  split
  · rename_i e he
    have hw' : Asking { w with stamped := w.stamped + 1 } := hw
    exact (ReflTransGen.single .stamp).tail (.dispatch hc hw' e)
  · exact (ReflTransGen.single (.report _ rfl)).tail (.answer _)

/-- Only a handler can fail; the outside is answered. -/
theorem fail_operations (w : World) (m : Option String) : Operations c w (w.perform (.fail m)) := by
  simp only [World.perform]
  split
  · rename_i o cs a tail hs
    exact .single (.fail m hs)
  · exact answer_operations w _

/-! ## Commands -/

/-- **A command is carried out by operations.** -/
theorem perform_operations {w : World} (hw : Asking w) (c : Command) :
    Operations c w (w.perform c) := by
  cases c with
  | subscribe onClient name topic full script =>
      exact requiring_operations _ fun _ => subscribing_operations rfl w name _ _
  | subscribeTyped name topic kind script =>
      exact requiring_operations _ fun _ => subscribing_operations rfl w name _ _
  | listen name only script =>
      refine requiring_operations _ fun _ => ?_
      exact (ReflTransGen.single (.listen rfl name _)).tail (.answer _)
  | unsubscribe name =>
      refine withSubscription_operations fun s hs => ?_
      exact (ReflTransGen.single (.unsubscribe rfl hs)).tail (.answer _)
  | isActive name => exact withSubscription_operations fun s _ => answer_operations w _
  | describeSubscription name => exact withSubscription_operations fun s _ => answer_operations w _
  | forget name =>
      refine withSubscription_operations fun s _ => ?_
      exact (ReflTransGen.single (.forget rfl name)).tail (.answer _)
  | receiveFrame text => exact requiring_operations _ fun _ => dispatchFrame_operations rfl hw text
  | dispatch topic payload =>
      refine requiring_operations _ fun _ => ?_
      have hw' : Asking { w with stamped := w.stamped + 1 } := hw
      exact (ReflTransGen.single .stamp).tail (.dispatch rfl hw' _)
  | dropRouter =>
      refine requiring_operations _ fun _ => ?_
      exact (ReflTransGen.single .dropRouter).tail (.answer _)
  | announceStatus number status =>
      exact requiring_operations _ fun hb => .single (.announce hw hb _)
  | dropListeners =>
      refine requiring_operations _ fun _ => ?_
      exact (ReflTransGen.single .dropBoard).tail (.answer _)
  | connect => exact requiring_operations _ fun _ => .single (.connect rfl hw)
  | disconnect => exact requiring_operations _ fun _ => .single (.disconnect rfl hw)
  | setToken token =>
      refine requiring_operations _ fun _ => ?_
      exact (ReflTransGen.single (.token token rfl)).tail (.answer _)
  -- what the application sends, and what it makes views do, ends with a reply
  | send topic payload =>
      exact requiring_operations _ fun _ => sendReplying_operations rfl w topic payload
  | sendUnwritable topic =>
      refine requiring_operations _ fun _ => ?_
      exact (ReflTransGen.single (.report _ rfl)).tail (.answer _)
  -- views start under a name and end by their name
  | joinChat name eventId =>
      refine requiring_operations _ fun _ => startNamed_operations rfl w _ _ fun w n => ?_
      exact .names rfl (w.rooms.insert name n) w.feeds w.monitors
  | openFeed name =>
      refine requiring_operations _ fun _ => startNamed_operations rfl w _ _ fun w n => ?_
      exact .names rfl w.rooms (w.feeds.insert name n) w.monitors
  | watch name streams =>
      refine requiring_operations _ fun _ => startNamed_operations rfl w _ _ fun w n => ?_
      exact .names rfl w.rooms w.feeds (w.monitors.insert name n)
  | leaveChat name =>
      simp only [World.perform]
      refine endNamed_operations rfl w w.rooms name fun w => ?_
      exact .names rfl (w.rooms.erase name) w.feeds w.monitors
  | closeFeed name =>
      simp only [World.perform]
      refine endNamed_operations rfl w w.feeds name fun w => ?_
      exact .names rfl w.rooms (w.feeds.erase name) w.monitors
  | closeMonitor name =>
      simp only [World.perform]
      refine endNamed_operations rfl w w.monitors name fun w => ?_
      exact .names rfl w.rooms w.feeds (w.monitors.erase name)
  | chatEvent name => exact withRoom_operations fun v => answer_operations w _
  | chatMessages name => exact withRoom_operations fun v => answer_operations w _
  | chatStatus name => exact withRoom_operations fun v => answer_operations w _
  | say name text => exact withRoom_operations fun v => sendReplying_operations rfl w _ _
  | moderate name messageId action reason =>
      exact withRoom_operations fun v => sendReplying_operations rfl w _ _
  | notifications name => exact withFeed_operations fun n v => answer_operations w _
  | notificationIds name => exact withFeed_operations fun n v => answer_operations w _
  | unread name => exact withFeed_operations fun n v => answer_operations w _
  | markRead name id =>
      exact withFeed_operations fun n v => sendAndAnswer_operations rfl w n _ _ _ _
  | markAllRead name =>
      exact withFeed_operations fun n v => sendAndAnswer_operations rfl w n _ _ _ _
  | addStream name stream =>
      refine withMonitor_operations fun n v => ?_
      split
      · exact answer_operations w _
      · exact sendAndAnswer_operations rfl w n _ _ _ _
  | removeStream name stream =>
      refine withMonitor_operations fun n v => ?_
      split
      · exact sendAndAnswer_operations rfl w n _ _ _ _
      · exact answer_operations w _
  | streamIds name => exact withMonitor_operations fun n v => answer_operations w _
  | snapshot name stream => exact withMonitor_operations fun n v => answer_operations w _
  | alerts name stream => exact withMonitor_operations fun n v => answer_operations w _
  | summary name => exact withMonitor_operations fun n v => answer_operations w _
  | fail message => exact fail_operations w message
  | other verb => exact answer_operations w _
  -- every other command only asks a question
  | _ => exact requiring_operations _ fun _ => answer_operations w _

end LiveLink.Proofs

import LiveLink.Client.Delivery
import LiveLink.Text.Quoted

/-!
# Carrying out commands

Most commands are done at once and give their reply. Those that deliver an
envelope or change the status call handlers or listeners, and their reply comes
when these are done.
-/

namespace LiveLink.World

/-- A subscription, or the reply that there is none of that name. -/
def withSubscription (w : World) (name : String) (f : Subscription → World) : World :=
  match w.subscriptions.get? name with
  | some s => f s
  | none => w.answer .missing

/-- A view by the name it has in a table, or the reply that there is none. -/
def withView (w : World) (names : Table Nat) (name : String) (f : Nat → View → World) : World :=
  match names.get? name with
  | none => w.answer .missing
  | some number =>
    match w.viewOf? number with
    | some v => f number v
    | none => w.answer .missing

/-- A chat by name. -/
def withRoom (w : World) (name : String) (f : ChatView → World) : World :=
  w.withView w.rooms name fun
    | _, .chat v => f v
    | _, _ => w.answer .missing

/-- A notification feed by name, with its number. -/
def withFeed (w : World) (name : String) (f : Nat → NoticeView → World) : World :=
  w.withView w.feeds name fun
    | number, .notices v => f number v
    | _, _ => w.answer .missing

/-- A stream monitor by name, with its number. -/
def withMonitor (w : World) (name : String) (f : Nat → HealthView → World) : World :=
  w.withView w.monitors name fun
    | number, .health v => f number v
    | _, _ => w.answer .missing

/-- Goes on if a part can be reached. -/
def requiring (w : World) (part : Bool) (f : World) : World := if part then f else w.answer .missing

/-- Sends a payload and replies whether it was accepted. -/
def sendReplying (w : World) (topic : String) (payload : Json) : World :=
  let (w, accepted) := w.sendPayload topic payload
  w.answer (.flag accepted)

/-- The supervisor of a number is to go no further than its next rest. -/
def stopSupervisor (w : World) (id : Option Nat) : World :=
  match id with
  | some id =>
    { w with supervisors := w.supervisors.modify id ({ · with stopped := true }) }
  | none => w

/-- Connects, unless there is a connection or one is being made. -/
def connect (w : World) : World :=
  if !w.hasRuntime then
    (w.happen (.warned .error none "connect called outside a Tokio runtime")).answer .none
  else if w.link.mayConnect then
    -- the place is free from now on; only this call knows the session that is closing
    let previous := w.link.closing
    let w := w.stopSupervisor w.link.supervisor
    -- the supervisor is started once the listeners have been told
    let t := w.link.startConnecting
    (w.push (.connecting t.1.generation previous)).turn t
  else w.answer .none

/-- `connect` has told the listeners: a new supervisor begins. If the generation has passed
meanwhile, it is stopped before it does anything. -/
def startSupervisor (w : World) (generation : Nat) (previous : Option Nat) : World :=
  let id := w.supervisors.length
  let w := { w with supervisors := w.supervisors ++ [Supervisor.mk generation (.fresh previous) false] }
  match w.link.adopt generation id with
  | some link => { w with link := link }
  | none => w.stopSupervisor (some id)

/-- Disconnects. -/
def disconnect (w : World) : World :=
  (w.stopSupervisor w.link.idleSupervisor).turn w.link.stop

/-- The client as text. -/
def describeClient (w : World) : String :=
  "RealtimeClient \x7b url: " ++ Text.quoted w.setup.url.write ++ ", status: " ++
    w.link.status.title ++ ", reconnect_attempts: " ++ toString w.link.attempts.toNat ++ " \x7d"

/-- Notifications as pairs of an id and whether it was read. -/
def idPairs (items : List Notification) : Json :=
  .array (items.map fun n => .array [.string n.id, .bool n.read])

/-- A summary as a value, with its total. -/
def summaryValue (s : HealthSummary) : Json :=
  .array [.object [("healthy", .nat s.healthy), ("warning", .nat s.warning),
    ("critical", .nat s.critical), ("offline", .nat s.offline), ("unknown", .nat s.unknown)],
    .nat s.total]

/-- Texts as a value. -/
def textsValue (l : List String) : Json := .array (l.map .string)

/-- A record as a value, or null. -/
def recordValue {α : Type} (r : Record α) (a : Option α) : Json :=
  match a with
  | some a => r.write a
  | none => .null

/-- Starts a view and gives it a name; the view that had the name before ends. -/
def startNamed (w : World) (former : Option Nat) (v : View) (keep : World → Nat → World) : World :=
  let (w, number) := w.startView v
  ((keep w number).endFormer former).answer .none

/-- Ends the view of a name and takes the name out. -/
def endNamed (w : World) (names : Table Nat) (name : String) (drop : World → World) : World :=
  match names.get? name with
  | some number => ((drop w).endView number).answer .none
  | none => w.answer .missing

/-- Carries out a command. -/
def perform (w : World) : Command → World
  | .subscribe onClient name topic full script =>
    w.requiring (if onClient then w.parts.client else w.parts.router) <|
      let scope := match topic with
        | some t => Scope.topic t
        | none => .all
      let (w, id) := w.subscribe name scope (.app name full none script)
      w.answer (.count id)
  | .subscribeTyped name topic kind script =>
    w.requiring w.parts.router <|
      let (w, id) := w.subscribe name (.topic topic) (.app name false (some kind) script)
      w.answer (.count id)
  | .listen name only script =>
    w.requiring (w.parts.board || w.parts.client) <|
      let (w, id) := w.listen name (.app name only script)
      w.answer (.count id)
  | .unsubscribe name =>
    w.withSubscription name fun s => (w.unsubscribe name s).answer .none
  | .isActive name => w.withSubscription name fun s => w.answer (.flag s.active)
  | .describeSubscription name =>
    w.withSubscription name fun s => w.answer (.text (describeSubscription s))
  | .forget name =>
    w.withSubscription name fun _ =>
      { w with subscriptions := w.subscriptions.erase name }.answer .none
  | .receiveFrame text => w.requiring w.parts.router (w.dispatchFrame text)
  | .dispatch topic payload =>
    w.requiring w.parts.router <|
      let (w, e) := w.newEnvelope topic payload
      w.dispatch e
  | .countTopic topic =>
    w.requiring w.parts.router (w.answer (.count (w.router.forTopic topic).length))
  | .countCatchAll => w.requiring w.parts.router (w.answer (.count w.router.all.length))
  | .listTopics =>
    w.requiring w.parts.router (w.answer (.value (textsValue w.router.topicNames)))
  | .dropRouter =>
    w.requiring w.parts.router ({ w with parts := { w.parts with router := false } }.answer .none)
  | .announceStatus number status =>
    w.requiring w.parts.board (w.announceChange ⟨number, status⟩)
  | .countListeners =>
    w.requiring w.parts.board <|
      let n := w.board.listeners.length
      w.answer (.value (.array [.nat n, .bool (n == 0)]))
  | .dropListeners =>
    w.requiring w.parts.board ({ w with parts := { w.parts with board := false } }.answer .none)
  | .connect => w.requiring w.parts.client w.connect
  | .disconnect => w.requiring w.parts.client w.disconnect
  | .setToken token =>
    w.requiring w.parts.client ({ w with link := { w.link with token := token } }.answer .none)
  | .send topic payload => w.requiring w.parts.client (w.sendReplying topic payload)
  | .sendUnwritable topic =>
    w.requiring w.parts.client <|
      (w.warn (some topic) "cannot serialize payload: key must be a string").answer (.flag false)
  | .token => w.requiring w.parts.client (w.answer (.value (.ofText? w.link.token)))
  | .status => w.requiring w.parts.client (w.answer (.text w.link.status.name))
  | .attempts => w.requiring w.parts.client (w.answer (.count w.link.attempts.toNat))
  | .describeClient => w.requiring w.parts.client (w.answer (.text w.describeClient))
  | .joinChat name eventId =>
    w.requiring w.parts.client <|
      w.startNamed (w.rooms.get? name) (.chat (.empty eventId w.setup.chatLimit))
        fun w n => { w with rooms := w.rooms.insert name n }
  | .leaveChat name => w.endNamed w.rooms name fun w => { w with rooms := w.rooms.erase name }
  | .chatEvent name => w.withRoom name fun v => w.answer (.text v.eventId)
  | .chatMessages name =>
    w.withRoom name fun v =>
      w.answer (.value (.array (v.messages.map ChatMessage.record.write)))
  | .chatStatus name =>
    w.withRoom name fun v => w.answer (.value (recordValue ChatStatus.record v.status))
  | .say name text =>
    w.withRoom name fun v =>
      w.sendReplying "chat.send" (.ofMembers [("eventId", .string v.eventId),
        ("message", .string text)])
  | .moderate name messageId action reason =>
    w.withRoom name fun v =>
      w.sendReplying "chat.moderate" (.ofMembers [("eventId", .string v.eventId),
        ("messageId", .string messageId), ("action", .string action.name),
        ("reason", .ofText? reason)])
  | .openFeed name =>
    w.requiring w.parts.client <|
      w.startNamed (w.feeds.get? name) (.notices (.empty w.setup.noticeLimit))
        fun w n => { w with feeds := w.feeds.insert name n }
  | .closeFeed name => w.endNamed w.feeds name fun w => { w with feeds := w.feeds.erase name }
  | .notifications name =>
    w.withFeed name fun _ v =>
      w.answer (.value (.array (v.items.map Notification.record.write)))
  | .notificationIds name => w.withFeed name fun _ v => w.answer (.value (idPairs v.items))
  | .unread name => w.withFeed name fun _ v => w.answer (.count v.unread)
  | .markRead name id =>
    w.withFeed name fun number v =>
      (w.setView number (.notices (v.setRead id true))).sendReplying "notification.read"
        (.object [("id", .string id)])
  | .markAllRead name =>
    w.withFeed name fun number v =>
      (w.setView number (.notices v.readAll)).sendReplying "notification.read_all" (.object [])
  | .watch name streams =>
    w.requiring w.parts.client <|
      w.startNamed (w.monitors.get? name) (.health (.watching w.setup.alertLimit streams))
        fun w n => { w with monitors := w.monitors.insert name n }
  | .closeMonitor name =>
    w.endNamed w.monitors name fun w => { w with monitors := w.monitors.erase name }
  | .addStream name stream =>
    w.withMonitor name fun number v =>
      if v.watches stream then w.answer (.flag false)
      else
        ((w.setView number (.health (v.add stream))).sendPayload "stream.health.subscribe"
          (View.named "streamId" stream)).1.answer (.flag true)
  | .removeStream name stream =>
    w.withMonitor name fun number v =>
      if v.watches stream then
        ((w.setView number (.health (v.remove stream))).sendPayload "stream.health.unsubscribe"
          (View.named "streamId" stream)).1.answer (.flag true)
      else w.answer (.flag false)
  | .streamIds name => w.withMonitor name fun _ v => w.answer (.value (textsValue v.streamIds))
  | .snapshot name stream =>
    w.withMonitor name fun _ v =>
      w.answer (.value (recordValue HealthSnapshot.record (v.snapshot stream)))
  | .alerts name stream =>
    w.withMonitor name fun _ v =>
      w.answer (.value (.array ((v.alerts stream).map HealthAlert.record.write)))
  | .summary name => w.withMonitor name fun _ v => w.answer (.value (summaryValue v.summary))
  | .fail message =>
    match w.stack with
    | .script .. :: stack => { w with stack := stack }.failCall message
    | _ => w.answer .none
  | .other _ => w.answer .unknown

end LiveLink.World

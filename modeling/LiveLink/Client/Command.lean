import LiveLink.Json.Value
import LiveLink.Payload.Kind
import LiveLink.Status

/-!
# Commands

What an application asks of the client, from outside or from within one of its
own handlers. A handler is given by the commands it carries out when it runs,
which may be others on every run.
-/

namespace LiveLink

/-- What an application asks for. Subscriptions and views go by names of the application's own. -/
inductive Command where
  /-- Hears one topic, or all of them. `onClient` tells whether the client is asked or its router,
  and `full` whether the handler also notes the id and the time of what it hears. -/
  | subscribe (onClient : Bool) (name : String) (topic : Option String) (full : Bool)
      (script : Nat → List Command)
  /-- Hears the payloads of one topic, read as one type. -/
  | subscribeTyped (name topic : String) (kind : PayloadKind) (script : Nat → List Command)
  /-- Hears changes of the status. The commands are carried out only for one status, if one is
  given. -/
  | listen (name : String) (only : Option Status) (script : Nat → List Command)
  | unsubscribe (name : String)
  | isActive (name : String)
  | describeSubscription (name : String)
  | forget (name : String)
  | receiveFrame (text : String)
  | dispatch (topic : String) (payload : Json)
  | countTopic (topic : String)
  | countCatchAll
  | listTopics
  | dropRouter
  | announceStatus (number : Nat) (status : Status)
  | countListeners
  | dropListeners
  | connect
  | disconnect
  | setToken (token : Option String)
  | send (topic : String) (payload : Json)
  /-- Sends a payload that has no form in JSON. -/
  | sendUnwritable (topic : String)
  | token
  | status
  | attempts
  | describeClient
  | joinChat (name eventId : String)
  | leaveChat (name : String)
  | chatEvent (name : String)
  | chatMessages (name : String)
  | chatStatus (name : String)
  | say (name text : String)
  | moderate (name messageId : String) (action : ModerationAction) (reason : Option String)
  | openFeed (name : String)
  | closeFeed (name : String)
  | notifications (name : String)
  | notificationIds (name : String)
  | unread (name : String)
  | markRead (name id : String)
  | markAllRead (name : String)
  | watch (name : String) (streams : List String)
  | closeMonitor (name : String)
  | addStream (name stream : String)
  | removeStream (name stream : String)
  | streamIds (name : String)
  | snapshot (name stream : String)
  | alerts (name stream : String)
  | summary (name : String)
  /-- Fails, with a message if there is one. -/
  | fail (message : Option String)
  /-- Something that the client does not know. -/
  | other (verb : String)

instance : Inhabited Command := ⟨.status⟩

/-- What a handler does on each of its runs, counted from zero. -/
abbrev Script := Nat → List Command

/-- The same commands on the first runs, as many as are given, or on all of them. -/
def Script.repeated (times : Option Nat) (commands : List Command) : Script :=
  fun run => if times.all (run < ·) then commands else []

namespace Command

/-- A listener whose commands wait for the status of a name. No status has an unknown name, so they
are then never carried out. -/
def listenFor (name on : String) (script : Script) : Command :=
  match Status.ofName? on with
  | some s => .listen name (some s) script
  | none => .listen name none fun _ => []

/-- The word for a command. -/
def verb : Command → String
  | subscribe onClient _ topic _ _ =>
    (if onClient then "client_sub" else "sub") ++ (if topic.isSome then "" else "_all")
  | subscribeTyped .. => "sub_typed"
  | listen .. => "listen"
  | unsubscribe _ => "unsub"
  | isActive _ => "active"
  | describeSubscription _ => "sub_debug"
  | forget _ => "forget"
  | receiveFrame _ => "frame"
  | dispatch .. => "dispatch"
  | countTopic _ => "count"
  | countCatchAll => "catch_all"
  | listTopics => "topics"
  | dropRouter => "drop_router"
  | announceStatus .. => "notify"
  | countListeners => "listener_count"
  | dropListeners => "drop_listeners"
  | connect => "connect"
  | disconnect => "disconnect"
  | setToken _ => "set_token"
  | send .. => "send"
  | sendUnwritable _ => "send_unserializable"
  | token => "token"
  | status => "status"
  | attempts => "attempts"
  | describeClient => "debug"
  | joinChat .. => "join"
  | leaveChat _ => "leave"
  | chatEvent _ => "event_id"
  | chatMessages _ => "messages"
  | chatStatus _ => "chat_status"
  | say .. => "say"
  | moderate .. => "moderate"
  | openFeed _ => "feed"
  | closeFeed _ => "drop_feed"
  | notifications _ => "notifications"
  | notificationIds _ => "notification_ids"
  | unread _ => "unread"
  | markRead .. => "mark_read"
  | markAllRead _ => "mark_all_read"
  | watch .. => "watch"
  | closeMonitor _ => "drop_monitor"
  | addStream .. => "add_stream"
  | removeStream .. => "remove_stream"
  | streamIds _ => "stream_ids"
  | snapshot .. => "snapshot"
  | alerts .. => "alerts"
  | summary _ => "summary"
  | fail _ => "panic"
  | other verb => verb

end Command

end LiveLink

import LiveLink.Payload.Record

/-!
# Notification payloads

What travels on the notification topics: notifications, changes to one of them,
and the news that many were read.
-/

namespace LiveLink

/-- A notification. -/
structure Notification where
  id : String
  kind : Option String
  title : String
  body : Option String
  link : Option String
  read : Bool
  createdAt : Option Instant
  deriving DecidableEq

/-- The fields of a notification; its kind travels under the name `type`. -/
def Notification.record : Record Notification where
  name := "Notification"
  Row := _
  Slots := _
  fields := .cons (.required "id" .text) <| .cons (.optional "type" .text) <|
    .cons (.required "title" .text) <| .cons (.optional "body" .text) <|
    .cons (.optional "link" .text) <| .cons (.withDefault "read" .flag false) <|
    .cons (.optional "createdAt" .instant) .nil
  ofRow := fun (id, kind, title, body, link, read, createdAt, _) =>
    ⟨id, kind, title, body, link, read, createdAt⟩
  toRow n := (n.id, n.kind, n.title, n.body, n.link, n.read, n.createdAt, ())

/-- A change to one notification; what is absent stays as it is. -/
structure NotificationUpdate where
  id : String
  read : Option Bool
  title : Option String
  body : Option String
  deriving DecidableEq

/-- The fields of a change to a notification. -/
def NotificationUpdate.record : Record NotificationUpdate where
  name := "NotificationUpdate"
  Row := _
  Slots := _
  fields := .cons (.required "id" .text) <| .cons (.optional "read" .flag) <|
    .cons (.optional "title" .text) <| .cons (.optional "body" .text) .nil
  ofRow := fun (id, read, title, body, _) => ⟨id, read, title, body⟩
  toRow u := (u.id, u.read, u.title, u.body, ())

/-- Notifications were read: those with the given ids, or all of them. -/
structure BulkRead where
  ids : Option (List String)
  deriving DecidableEq

/-- The fields of a bulk read. -/
def BulkRead.record : Record BulkRead where
  name := "BulkRead"
  Row := _
  Slots := _
  fields := .cons (.optional "ids" (.list .text)) .nil
  ofRow := fun (ids, _) => ⟨ids⟩
  toRow b := (b.ids, ())

end LiveLink

import LiveLink.Table
import LiveLink.View.Bounded
import LiveLink.Payload.Notification

/-!
# A view of the notifications

The newest notifications, newest first. Of those that were let go because there
is no room for them, the unread ones are remembered by their ids, so that the
number of unread notifications stays right.
-/

namespace LiveLink

/-- The notifications, as far as they are kept. -/
structure NoticeView where
  limit : Nat
  items : List Notification
  /-- The ids of unread notifications that are kept no longer. -/
  evictedUnread : TextSet
  deriving DecidableEq

namespace NoticeView

/-- Nothing received yet. -/
def empty (limit : Nat) : NoticeView := ⟨limit, [], []⟩

/-- Whether a notification of an id is kept. -/
def holds (v : NoticeView) (id : String) : Bool := v.items.any (·.id = id)

/-- Remembers the unread ones among notifications that are let go. -/
def remember (ids : TextSet) (gone : List Notification) : TextSet :=
  gone.foldr (fun n ids => if n.read then ids else ids.insert n.id ()) ids

/-- A notification arrives. One of the same id is replaced where it stands. -/
def receive (v : NoticeView) (n : Notification) : NoticeView :=
  if v.holds n.id then { v with items := modifyFirst (·.id = n.id) (fun _ => n) v.items }
  else
    let items := n :: v.items
    { v with
      items := items.take v.limit
      -- it is kept again, so its id is remembered no longer
      evictedUnread := remember (v.evictedUnread.erase n.id) (items.drop v.limit) }

/-- A notification is marked as read or as unread. One that is not kept can only be read. -/
def setRead (v : NoticeView) (id : String) (read : Bool) : NoticeView :=
  if v.holds id then
    { v with items := modifyFirst (·.id = id) ({ · with read := read }) v.items }
  -- whether it was unread is all that is known of it
  else if read then { v with evictedUnread := v.evictedUnread.erase id }
  else v

/-- Every notification is read. -/
def readAll (v : NoticeView) : NoticeView :=
  { v with items := v.items.map ({ · with read := true }), evictedUnread := [] }

/-- What a change says about the text of a notification. -/
def retitle (u : NotificationUpdate) (n : Notification) : Notification :=
  { n with title := u.title.getD n.title, body := u.body.or n.body }

/-- A change to a notification arrives. -/
def update (v : NoticeView) (u : NotificationUpdate) : NoticeView :=
  let v := { v with items := modifyFirst (·.id = u.id) (retitle u) v.items }
  match u.read with
  | some read => v.setRead u.id read
  | none => v

/-- The news that notifications were read arrives. -/
def bulkRead (v : NoticeView) (b : BulkRead) : NoticeView :=
  match b.ids with
  | some ids => ids.foldl (fun v id => v.setRead id true) v
  | none => v.readAll

/-- The number of unread notifications, kept or not. -/
def unread (v : NoticeView) : Nat := v.items.countP (!·.read) + v.evictedUnread.length

end NoticeView

end LiveLink

/-
The table of sessions.

A session that has been removed can no longer be found, but a callback that was running when it was
removed still holds it.
-/
import MailFilter.Session.Basic

namespace MailFilter

/-- A session, and in `isLive` whether it can still be found. -/
structure Entry where
  session : Session
  isLive : Bool := true

/-- All sessions in the order in which they connected, those too that have been removed. -/
structure SessionTable where
  entries : List Entry := []

namespace SessionTable

/-- The sessions that `find?` can find. -/
def live (t : SessionTable) : List Session :=
  (t.entries.filter (·.isLive)).map (·.session)

/-- Looks for the session `id` among those that are `live`. -/
def find? (t : SessionTable) (id : Uuid) : Option Session :=
  t.live.find? fun s => s.id = id

/-- The session `id` as a callback holds it, whether or not `find?` finds it. -/
def held? (t : SessionTable) (id : Uuid) : Option Session :=
  (t.entries.map (·.session)).find? fun s => s.id = id

/-- Adds a session, after all others. -/
def insert (t : SessionTable) (s : Session) : SessionTable :=
  ⟨t.entries ++ [{ session := s }]⟩

/-- Puts `s` into the place of the session with its identifier. -/
def update (t : SessionTable) (s : Session) : SessionTable :=
  ⟨t.entries.map fun e => if e.session.id = s.id then { e with session := s } else e⟩

/-- Removes the sessions that pass `p`, and yields those of them that could be found until now. -/
def removeWhere (t : SessionTable) (p : Session → Bool) : List Session × SessionTable :=
  (t.live.filter p,
    ⟨t.entries.map fun e => if p e.session then { e with isLive := false } else e⟩)

/-- Removes the session `id`. -/
def remove (t : SessionTable) (id : Uuid) : List Session × SessionTable :=
  t.removeWhere fun s => s.id = id

/-- Whether the session `s` has been connected for longer than `maxAgeSecs`. -/
def isExpired (maxAgeSecs : Nat) (now : Timestamp) (s : Session) : Bool :=
  maxAgeSecs * Timestamp.second < now.since s.connectedAt

/-- Removes the sessions that are `isExpired`: connected for longer than `maxAgeSecs`. -/
def removeExpired (t : SessionTable) (maxAgeSecs : Nat) (now : Timestamp) :
    List Session × SessionTable :=
  t.removeWhere (isExpired maxAgeSecs now)

end SessionTable

end MailFilter

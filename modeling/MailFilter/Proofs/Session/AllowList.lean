/-
Clients on the allow list, in the table of sessions.

Whether a client is on the allow list is settled when it connects: no callback changes it, whether it
succeeds or fails, and neither do new settings. So the table says the same of a session for as long as
it is held.

* `keeps_change`: no callback changes which client a session is with;
* `clients_update`: neither does a change of the table that goes back to such a change;
* `isAllowListed_of_find?`: a session that can be found is the one that the table lists.
-/
import MailFilter.Proofs.Session.Change
import MailFilter.Proofs.Session.Table

namespace MailFilter

/-! ### What a change keeps -/

namespace Change

variable {α β γ : Type} {g : α → γ}

/-- The change `c` leaves the part `g` as it is, even if it fails. -/
def Keeps (g : α → γ) (c : Change α β) : Prop :=
  ∀ a, g (c a).2 = g a

theorem keeps_whole {f : α → Except Failure α} (h : ∀ a a', f a = .ok a' → g a' = g a) :
    (whole f).Keeps g := by
  intro a
  unfold whole
  cases hf : f a with
  | ok a' => exact h a a' hf
  | error e => rfl

theorem Keeps.andThen {c : Change α Unit} {c' : Change α β} (h : c.Keeps g) (h' : c'.Keeps g) :
    (c.andThen c').Keeps g := by
  intro a
  have hfirst := h a
  unfold Change.andThen
  rcases hc : c a with ⟨_ | _, a₁⟩
  · rwa [hc] at hfirst
  · rw [hc] at hfirst
    exact (h' a₁).trans hfirst

end Change

/-! ### Sessions -/

namespace Session

/-- Which session it is, and whether its client is on the allow list: a `Change` of a callback keeps this
part. -/
def client (s : Session) : Uuid × Bool :=
  (s.id, s.isAllowListed)

variable {s s' : Session}

theorem client_advance {stage : Stage} (h : s.advance stage = .ok s') :
    s'.client = s.client := by
  rcases s.advance_cases stage with ⟨position, -, ha⟩ | ⟨e, -, ha⟩
  · rw [ha] at h
    cases h
    rfl
  · rw [ha] at h
    cases h

theorem client_recordSasl (s : Session) (sasl : Sasl) :
    (s.recordSasl sasl).client = s.client := by
  unfold recordSasl Connection.recordSasl client isAllowListed
  split <;> rfl

theorem client_abort (s : Session) : s.abort.2.client = s.client := by
  unfold abort
  cases s.current? <;> rfl

end Session

namespace SessionChange

open Session

theorem keeps_advance (stage : Stage) : (advance stage).Keeps client :=
  Change.keeps_whole fun _ _ => client_advance

/-- What `g` does on top of a stage that leads on may change other parts than `client`. -/
theorem keeps_map_advance (stage : Stage) {g : Session → Session}
    (hg : ∀ s, (g s).client = s.client) :
    (Change.whole fun s => (s.advance stage).map g).Keeps client := by
  refine Change.keeps_whole fun s s' h => ?_
  cases ha : s.advance stage with
  | error e =>
    rw [ha] at h
    cases h
  | ok advanced =>
    rw [ha] at h
    cases h
    exact (hg advanced).trans (client_advance ha)

theorem keeps_recordSasl (sasl : Sasl) : (recordSasl sasl).Keeps client :=
  fun s => client_recordSasl s sasl

theorem keeps_changeCurrent {β : Type} (stage : Stage) (f : Change Message β) :
    (changeCurrent stage f).Keeps client := by
  intro s
  unfold changeCurrent
  cases s.current? <;> rfl

theorem keeps_envFrom (message : Uuid) (now : Timestamp) (args : List String) (sasl : Sasl) :
    (envFrom message now args sasl).Keeps client := by
  unfold envFrom
  split
  · exact (keeps_recordSasl sasl).andThen (keeps_map_advance .envFrom fun s => rfl)
  · exact fun s => rfl

end SessionChange

/-- No callback changes which `client` it is. -/
theorem Callback.keeps_change (c : Callback) (message : Uuid) (now : Timestamp) :
    (c.change message now).Keeps Session.client := by
  have htouch : ∀ {β : Type} (stage : Stage) (f : Change Message β),
      ((SessionChange.advance stage).andThen (SessionChange.changeCurrent stage f)).Keeps
        Session.client :=
    fun stage f =>
      (SessionChange.keeps_advance stage).andThen (SessionChange.keeps_changeCurrent stage f)
  cases c with
  | helo name tls => exact SessionChange.keeps_map_advance .helo fun s => rfl
  | envFrom args sasl => exact SessionChange.keeps_envFrom message now args sasl
  | envRcpt args => exact htouch _ _
  | header key value => exact htouch _ _
  | eoh queueId sasl =>
    exact ((SessionChange.keeps_advance .eoh).andThen (SessionChange.keeps_recordSasl sasl)).andThen
      (SessionChange.keeps_changeCurrent _ _)
  | body chunk => exact htouch _ _
  | eom queueId =>
    exact (SessionChange.keeps_advance .eom).andThen fun s =>
      SessionChange.keeps_changeCurrent _ _ s
  | abort => exact Session.client_abort
  | close => exact fun s => rfl

/-! ### The table -/

namespace SessionTable

/-- The `client` of every session, in the order of the table. -/
def clients (t : SessionTable) : List (Uuid × Bool) :=
  t.all.map Session.client

theorem clients_of_all_eq {t t' : SessionTable} (h : t'.all = t.all) : t'.clients = t.clients := by
  rw [clients, clients, h]

theorem clients_insert (t : SessionTable) (s : Session) :
    (t.insert s).clients = t.clients ++ [s.client] := by
  rw [clients, all_insert, List.map_append, clients]
  rfl

/-- An `update` by a session with the same `client` as the one that is held. -/
theorem clients_update {t : SessionTable} (hd : t.Distinct) {id : Uuid} {s s' : Session}
    (hs : t.held? id = some s) (h : s'.client = s.client) : (t.update s').clients = t.clients := by
  rw [clients, clients, all_update, List.map_map]
  refine List.map_congr_left fun x hx => ?_
  show Session.client (if x.id = s'.id then s' else x) = x.client
  split
  · next hid =>
    -- only the session that is held has its identifier
    have hid' : s'.id = s.id := congrArg Prod.fst h
    have hheld := held?_of_mem hd hx
    rw [hid, hid', id_of_held? hs, hs] at hheld
    rw [h, Option.some.inj hheld]
  · rfl

/-- A session that can be found is on the allow list just if `clients` says so. -/
theorem isAllowListed_of_find? {t : SessionTable} (hd : t.Distinct) {id : Uuid} {listed : Bool}
    {s : Session} (h : (id, listed) ∈ t.clients) (hs : t.find? id = some s) :
    s.isAllowListed = listed := by
  obtain ⟨x, hx, hclient⟩ := List.mem_map.1 h
  have hid : x.id = id := congrArg Prod.fst hclient
  have hheld := held?_of_mem hd hx
  rw [hid, held?_of_find? hd hs] at hheld
  rw [Option.some.inj hheld]
  exact congrArg Prod.snd hclient

theorem mem_clients_of_find? {t : SessionTable} {id : Uuid} {listed : Bool} {s : Session}
    (hs : t.find? id = some s) (h : s.isAllowListed = listed) : (id, listed) ∈ t.clients := by
  refine List.mem_map.2 ⟨s, mem_all_of_mem_live (List.mem_of_find?_eq_some hs), ?_⟩
  have hid : s.id = id := by simpa using List.find?_some hs
  rw [Session.client, hid, h]

end SessionTable

end MailFilter

/-
Sessions come and go: all that adds sessions to the table and removes them from it.

A call removes sessions at one stroke and finishes them afterwards, one by one; meanwhile other calls
go on, and a callback that still holds a session may change it. `Turnover` allows for every order of
these steps, the sessions of one sweep among themselves included.

* `accounted_step`: who can no longer be found has been finished or is still to be finished;
* `run_one`: finishing a session step by step is what `FilterState.finish` does at once;
* `ends_once`: the results for every order of the steps.
-/
import Mathlib.Algebra.GroupWithZero.Nat
import Mathlib.Data.List.Nodup
import MailFilter.Filter.State
import MailFilter.Proofs.Session.Table
import MailFilter.Proofs.Traffic.Basic

namespace MailFilter

variable {σ : Type}

/-! ### Calls that remove sessions -/

/-- What removes sessions; `Removal.apply` does it. -/
inductive Removal where
  | delete (id : Uuid)
  /-- The sessions that have outlived their age are removed. -/
  | sweep (now : Timestamp)

namespace Removal

def isSweep : Removal → Bool
  | delete _ => false
  | sweep _ => true

def apply (f : Filter σ) : Removal → SessionTable → List Session × SessionTable
  | delete id, t => t.remove id
  | sweep now, t => t.removeExpired f.maxAgeSecs now

/-- Which sessions are removed if `find?` finds them. -/
def picks (f : Filter σ) : Removal → Session → Bool
  | delete id => fun s => s.id = id
  | sweep now => SessionTable.isExpired f.maxAgeSecs now

theorem apply_eq (f : Filter σ) (r : Removal) (t : SessionTable) :
    r.apply f t = t.removeWhere (r.picks f) := by
  cases r <;> rfl

end Removal

namespace Turnover

/-- A call of a `Removal`, with the table as it has found it. -/
structure Call where
  removal : Removal
  table : SessionTable

namespace Call

/-- The sessions that the call `c` has removed. -/
def removed (f : Filter σ) (c : Call) : List Session :=
  (c.removal.apply f c.table).1

/-- What `delete` answers: whether there was a session to remove. -/
def found (f : Filter σ) (c : Call) : Bool :=
  !(c.removed f).isEmpty

/-- What a sweep answers: how many sessions it has `removed`. -/
def swept (f : Filter σ) (c : Call) : Nat :=
  if c.removal.isSweep then (c.removed f).length else 0

/-- The session `id` could be found until the call `c` has removed it. -/
def Takes (f : Filter σ) (c : Call) (id : Uuid) : Prop :=
  c.table.find? id ≠ none ∧ (c.removal.apply f c.table).2.find? id = none

theorem takes_iff {f : Filter σ} {c : Call} (hd : c.table.Distinct) {id : Uuid} :
    c.Takes f id ↔ id ∈ (c.removed f).map (·.id) := by
  rw [Takes, removed, Removal.apply_eq, SessionTable.mem_removeWhere_iff hd]

theorem id_of_delete {f : Filter σ} {c : Call} {id : Uuid} (hc : c.removal = .delete id)
    {s : Session} (hs : s ∈ c.removed f) : s.id = id := by
  rw [removed, hc] at hs
  simpa using (List.mem_filter.1 hs).2

theorem found_iff {f : Filter σ} {c : Call} (hd : c.table.Distinct) {id : Uuid}
    (hc : c.removal = .delete id) : c.found f = true ↔ c.Takes f id := by
  rw [takes_iff hd, found, Bool.not_eq_true', List.isEmpty_eq_false_iff_exists_mem, List.mem_map]
  exact exists_congr fun s => ⟨fun hs => ⟨hs, id_of_delete hc hs⟩, fun h => h.1⟩

end Call

/-! ### Steps -/

/-- A session that has been removed, by the number of the call, and whether it has been `pruned`. -/
structure Leaving where
  id : Uuid
  call : Nat
  /-- Whether the call is a sweep. -/
  pruned : Bool

/-- What has happened, in the log of a `Turnover`. -/
inductive Event (σ : Type) where
  | created (id : Uuid)
  /-- A session that a call has removed is finished: the modules are told, and its record is handed
  over. -/
  | ended (call : Nat) (record : SessionRecord)
  /-- Something else has gone on. -/
  | elsewhere (memory : σ) (queue : Queue Store)

/-- What may happen next to a `Turnover`. The moves that end sessions may come at any time, and in any
order. -/
inductive Move (σ : Type) where
  | create (ip : Option Ip) (port : Option Nat) (reverseDns : Option String)
  | find (id : Uuid)
  | remove (removal : Removal)
  /-- A removed session is counted, if a sweep has removed it. -/
  | count (k : Nat)
  /-- A removed session is finished, once it has been counted. -/
  | finish (k : Nat)
  /-- Anything else: sessions are changed in their places, identifiers given out, checkers are at
  work, records are added to the queue and saved. -/
  | elsewhere (after : FilterState σ) (change : Session → Session)

/-- Whether a move works off what has been removed: it is `count` or `finish`. -/
def Move.IsFinishing : Move σ → Prop
  | count _ | finish _ => True
  | create .. | find _ | remove _ | elsewhere .. => False

end Turnover

/-- The state of a filter, the calls that have removed sessions, and in `pending` what is still to be
done. -/
structure Turnover (σ : Type) where
  state : FilterState σ
  calls : List Turnover.Call := []
  /-- The sessions that have been removed but not finished, and whether they are still to be
  counted. -/
  pending : List (Turnover.Leaving × Bool) := []
  log : List (Turnover.Event σ) := []

/-- Changes sessions by `change` in their places; who they are, and when they connected, stays. -/
def SessionTable.modify (change : Session → Session) (t : SessionTable) : SessionTable :=
  ⟨t.entries.map fun e => { e with session :=
    { change e.session with id := e.session.id, connectedAt := e.session.connectedAt } }⟩

namespace Turnover

/-- The sessions that have been created, in the order of the `log`. -/
def created (log : List (Event σ)) : List Uuid :=
  log.filterMap fun
    | .created id => some id
    | _ => none

/-- The sessions that have been finished, in the order of the `log`: by which call, and with which
record. -/
def endings (log : List (Event σ)) : List (Nat × SessionRecord) :=
  log.filterMap fun
    | .ended call record => some (call, record)
    | _ => none

def start (st : FilterState σ) : Turnover σ :=
  { state := { st with sessions := {} } }

/-- Removes sessions by the call `r`; they are still to be finished. -/
def remove (f : Filter σ) (S : Turnover σ) (r : Removal) : Turnover σ :=
  { S with
    state := { S.state with sessions := (r.apply f S.state.sessions).2 }
    calls := S.calls ++ [⟨r, S.state.sessions⟩]
    pending := S.pending ++ (r.apply f S.state.sessions).1.map fun s =>
      (⟨s.id, S.calls.length, r.isSweep⟩, r.isSweep) }

def step (f : Filter σ) (S : Turnover σ) : Move σ → Turnover σ
  | .create ip port reverseDns =>
    let (id, state) := S.state.connect ip port reverseDns
    { S with state, log := S.log ++ [.created id] }
  | .find _ => S
  | .remove r => S.remove f r
  | .count k =>
    match S.pending[k]? with
    | some (l, true) =>
      { S with
        state := { S.state with metrics := S.state.metrics.notePruned }
        pending := S.pending.set k (l, false) }
    | _ => S
  | .finish k =>
    match S.pending[k]? with
    | some (l, false) =>
      match S.state.sessions.held? l.id with
      | some s =>
        { S with
          state := S.state.finish f l.pruned s
          pending := S.pending.eraseIdx k
          log := S.log ++ [.ended l.call (s.toRecord S.state.clock l.pruned)] }
      | none => S
    | _ => S
  | .elsewhere after change =>
    { S with
      state := { after with
        sessions := S.state.sessions.modify change
        serial := max S.state.serial after.serial
        metrics := { after.metrics with sessionsPruned := S.state.metrics.sessionsPruned } }
      log := S.log ++ [.elsewhere after.memory after.queue] }

def run (f : Filter σ) (S : Turnover σ) (moves : List (Move σ)) : Turnover σ :=
  moves.foldl (step f) S

theorem run_append (f : Filter σ) (S : Turnover σ) (moves moves' : List (Move σ)) :
    S.run f (moves ++ moves') = (S.run f moves).run f moves' :=
  List.foldl_append

/-! ### Accounts -/

/-- What an event does to the memory of the checkers and to the queue of records: only `ended` does
anything. -/
def Event.effect (f : Filter σ) : σ × Queue Store → Event σ → σ × Queue Store
  | (memory, queue), .created _ => (memory, queue)
  | (memory, queue), .ended _ record =>
    (f.registry.sessionEnded record memory, queue.enqueue (.session record))
  | _, .elsewhere memory queue => (memory, queue)

/-- The checkers of a list are told one after the other that a session has ended: one that is enabled is
told once, with the record of the session, and one that is disabled is not told at all. -/
inductive Told (record : SessionRecord) : List (Checker σ) → σ → σ → Prop
  | nil {memory : σ} : Told record [] memory memory
  | enabled {c : Checker σ} {cs : List (Checker σ)} {memory memory' : σ} (hc : c.enabled = true)
      (h : Told record cs (c.sessionEnded record memory) memory') : Told record (c :: cs) memory memory'
  | disabled {c : Checker σ} {cs : List (Checker σ)} {memory memory' : σ} (hc : c.enabled = false)
      (h : Told record cs memory memory') : Told record (c :: cs) memory memory'

/-- By `Registry.sessionEnded` the checkers are `Told`. -/
theorem told_sessionEnded (r : Registry σ) (record : SessionRecord) (memory : σ) :
    Told record r.checkers memory (r.sessionEnded record memory) := by
  rw [Registry.sessionEnded, Registry.enabled]
  induction r.checkers generalizing memory with
  | nil => exact .nil
  | cons c cs ih =>
    cases hc : c.enabled with
    | true =>
      rw [List.filter_cons_of_pos hc, List.foldl_cons]
      exact .enabled hc (ih _)
    | false =>
      rw [List.filter_cons_of_neg (by simp [hc])]
      exact .disabled hc (ih _)

/-- All sessions that have been removed: those that have been finished first, and then the ones in
`pending`. -/
def leavings (S : Turnover σ) : List Leaving :=
  (endings S.log).map (fun e => ⟨e.2.id, e.1, e.2.pruned⟩) ++ S.pending.map (·.1)

/-- What has become of the sessions: who can no longer be found has been removed by one call, and is
finished or still `pending`. -/
structure Accounted (f : Filter σ) (st : FilterState σ) (S : Turnover σ) : Prop where
  distinct : S.state.sessions.Distinct
  issued : ∀ id ∈ S.state.sessions.ids, ∃ n < S.state.serial, id = Uuid.issued n
  created : created S.log = S.state.sessions.ids
  gone : (S.leavings.map (·.id)).Perm S.state.sessions.gone
  taken : ∀ (i : Nat) (c : Call), S.calls[i]? = some c → c.table.Distinct ∧
    ((S.leavings.filter fun l => l.call = i).map (·.id)).Perm ((c.removed f).map (·.id))
  known : ∀ l ∈ S.leavings, ∃ c, S.calls[l.call]? = some c ∧ l.pruned = c.removal.isSweep
  counted : S.state.metrics.sessionsPruned + S.pending.countP (·.2)
    = st.metrics.sessionsPruned + S.leavings.countP (·.pruned)
  swept : S.leavings.countP (·.pruned) = (S.calls.map (Call.swept f)).sum
  effects : (S.state.memory, S.state.queue) = S.log.foldl (Event.effect f) (st.memory, st.queue)

variable {f : Filter σ} {st : FilterState σ} {S : Turnover σ}

theorem accounted_start (f : Filter σ) (st : FilterState σ) : (start st).Accounted f st where
  distinct := List.nodup_nil
  issued := by
    intro id hid
    cases hid
  created := rfl
  gone := .refl _
  taken := by
    intro i c hc
    simp [start] at hc
  known := by
    intro l hl
    cases hl
  counted := rfl
  swept := rfl
  effects := rfl

theorem accounted_create (h : S.Accounted f st) (ip : Option Ip) (port : Option Nat)
    (reverseDns : Option String) : (S.step f (.create ip port reverseDns)).Accounted f st := by
  have hfresh : Uuid.issued S.state.serial ∉ S.state.sessions.ids :=
    fun hmem => Uuid.ne_issued (h.issued _ hmem) rfl
  obtain ⟨s, hid, hstep⟩ : ∃ s : Session, s.id = Uuid.issued S.state.serial ∧
      S.step f (.create ip port reverseDns) = { S with
        state := { S.state with
          serial := S.state.serial + 1, sessions := S.state.sessions.insert s }
        log := S.log ++ [.created s.id] } :=
    ⟨Session.new (Uuid.issued S.state.serial) S.state.config S.state.clock ip port reverseDns, rfl,
      rfl⟩
  -- a new session is not among those that have left
  have hlog : endings (S.log ++ [.created s.id]) = endings S.log := by
    simp [endings, List.filterMap_append]
  rw [hstep]
  constructor
  case distinct => exact SessionTable.distinct_insert h.distinct (hid ▸ hfresh)
  case issued =>
    intro id hmem
    rcases List.mem_append.1 (SessionTable.ids_insert .. ▸ hmem) with hold | hnew
    · obtain ⟨n, hn, rfl⟩ := h.issued id hold
      exact ⟨n, Nat.lt_succ_of_lt hn, rfl⟩
    · exact ⟨S.state.serial, Nat.lt_succ_self _, by rw [List.mem_singleton.1 hnew, hid]⟩
  case created =>
    show Turnover.created (S.log ++ [.created s.id]) = _
    rw [SessionTable.ids_insert, ← h.created]
    simp [Turnover.created, List.filterMap_append]
  case gone =>
    show (_ : List Uuid).Perm (S.state.sessions.insert s).gone
    rw [SessionTable.gone_insert, leavings, hlog]
    exact h.gone
  case taken =>
    rw [leavings, hlog]
    exact h.taken
  case known =>
    rw [leavings, hlog]
    exact h.known
  case counted =>
    rw [leavings, hlog]
    exact h.counted
  case swept =>
    rw [leavings, hlog]
    exact h.swept
  case effects =>
    rw [List.foldl_append, ← h.effects]
    rfl

/-- The sessions that a call takes out are the last of the `leavings`. -/
theorem leavings_remove (f : Filter σ) (S : Turnover σ) (r : Removal) :
    (S.remove f r).leavings = S.leavings ++
      ((⟨r, S.state.sessions⟩ : Call).removed f).map fun s => ⟨s.id, S.calls.length, r.isSweep⟩ := by
  simp [leavings, remove, Call.removed, Function.comp_def]

/-- Nothing has left by a call that is still to come. -/
theorem Accounted.filter_leavings (h : S.Accounted f st) :
    (S.leavings.filter fun l => l.call = S.calls.length) = [] := by
  rw [List.filter_eq_nil_iff]
  intro l hl heq
  obtain ⟨c, hc, -⟩ := h.known l hl
  rw [of_decide_eq_true heq] at hc
  simp at hc

/-- With the call `c` as the last, what has left by each call is what that call has `removed`. -/
theorem Accounted.taken_concat (h : S.Accounted f st) {c : Call} (hd : c.table.Distinct)
    (pruned : Bool) {i : Nat} {c' : Call} (hc' : (S.calls ++ [c])[i]? = some c') :
    c'.table.Distinct ∧ (((S.leavings ++ (c.removed f).map fun s =>
      (⟨s.id, S.calls.length, pruned⟩ : Leaving)).filter fun l => l.call = i).map (·.id)).Perm
      ((c'.removed f).map (·.id)) := by
  rw [List.filter_append, List.map_append]
  rcases Traffic.getElem?_concat_iff.1 hc' with hold | ⟨rfl, rfl⟩
  -- nothing is added to what an earlier call has removed
  · obtain ⟨hd', htaken⟩ := h.taken i c' hold
    have hi : S.calls.length ≠ i := Nat.ne_of_gt (List.getElem?_eq_some_iff.1 hold).1
    exact ⟨hd', by simpa [List.filter_map, Function.comp_def, hi] using htaken⟩
  · rw [h.filter_leavings]
    exact ⟨hd, by simp [List.filter_map, Function.comp_def]⟩

theorem accounted_remove (h : S.Accounted f st) (r : Removal) :
    (S.step f (.remove r)).Accounted f st := by
  set c : Call := ⟨r, S.state.sessions⟩ with hc
  set new : List Leaving :=
    (c.removed f).map fun s => ⟨s.id, S.calls.length, r.isSweep⟩ with hnew
  have hleavings : (S.remove f r).leavings = S.leavings ++ new := leavings_remove f S r
  have hids : new.map (·.id) = (c.removed f).map (·.id) := by
    simp [hnew, Function.comp_def]
  have hall : (r.apply f S.state.sessions).2.all = S.state.sessions.all := by
    rw [Removal.apply_eq, SessionTable.all_removeWhere]
  have htable : (r.apply f S.state.sessions).2.ids = S.state.sessions.ids := by
    rw [SessionTable.ids, hall, SessionTable.ids]
  have hpruned : new.countP (·.pruned) = c.swept f := by
    cases hr : r.isSweep <;> simp [hnew, hc, Call.swept, hr, List.countP_map, Function.comp_def]
  have hcounted : (S.remove f r).pending.countP (·.2) = S.pending.countP (·.2) + c.swept f := by
    cases hr : r.isSweep <;>
      simp [remove, hc, Call.swept, Call.removed, hr, List.countP_map, Function.comp_def]
  show (S.remove f r).Accounted f st
  constructor
  case distinct =>
    show (_ : SessionTable).Distinct
    rw [SessionTable.Distinct, remove, htable]
    exact h.distinct
  case issued =>
    show ∀ id ∈ (r.apply f S.state.sessions).2.ids, _
    rw [htable]
    exact h.issued
  case created =>
    show Turnover.created S.log = (r.apply f S.state.sessions).2.ids
    rw [htable]
    exact h.created
  case gone =>
    rw [hleavings, List.map_append, hids]
    refine (h.gone.append_right _).trans ?_
    show (S.state.sessions.gone ++ (r.apply f S.state.sessions).1.map (·.id)).Perm
      (r.apply f S.state.sessions).2.gone
    rw [Removal.apply_eq]
    exact (SessionTable.gone_removeWhere ..).symm
  case taken =>
    intro i c' hc'
    rw [hleavings]
    exact h.taken_concat (c := c) h.distinct _ hc'
  case known =>
    intro l hl
    rw [hleavings] at hl
    rcases List.mem_append.1 hl with hl | hl
    · obtain ⟨c', hc', hpruned⟩ := h.known l hl
      exact ⟨c', Traffic.getElem?_concat_iff.2 (.inl hc'), hpruned⟩
    · obtain ⟨s, -, rfl⟩ := List.mem_map.1 hl
      exact ⟨c, Traffic.getElem?_concat_iff.2 (.inr ⟨rfl, rfl⟩), rfl⟩
  case counted =>
    have hcount := h.counted
    rw [hleavings, List.countP_append, hpruned, hcounted]
    show S.state.metrics.sessionsPruned + _ = _
    omega
  case swept =>
    have hsum := h.swept
    rw [hleavings, List.countP_append, hpruned]
    show _ = ((S.calls ++ [c]).map (Call.swept f)).sum
    rw [List.map_append, List.sum_append, hsum]
    simp
  case effects => exact h.effects

/-- A move that creates and removes no sessions keeps `Accounted`: of what is left to do it makes
something that has been done. -/
theorem Accounted.of_perm (h : S.Accounted f st) {S' : Turnover σ} (hcalls : S'.calls = S.calls)
    (hids : S'.state.sessions.ids = S.state.sessions.ids)
    (hgone : S'.state.sessions.gone = S.state.sessions.gone)
    (hserial : S.state.serial ≤ S'.state.serial)
    (hcreated : Turnover.created S'.log = Turnover.created S.log)
    (hleavings : S'.leavings.Perm S.leavings)
    (hcounted : S'.state.metrics.sessionsPruned + S'.pending.countP (·.2)
      = S.state.metrics.sessionsPruned + S.pending.countP (·.2))
    (heffects : (S'.state.memory, S'.state.queue)
      = S'.log.foldl (Event.effect f) (st.memory, st.queue)) : S'.Accounted f st where
  distinct := by
    rw [SessionTable.Distinct, hids]
    exact h.distinct
  issued := by
    intro id hid
    obtain ⟨n, hn, rfl⟩ := h.issued id (hids ▸ hid)
    exact ⟨n, Nat.lt_of_lt_of_le hn hserial, rfl⟩
  created := by rw [hcreated, h.created, hids]
  gone := by
    rw [hgone]
    exact (hleavings.map _).trans h.gone
  taken := by
    intro i c hc
    obtain ⟨hd, htaken⟩ := h.taken i c (hcalls ▸ hc)
    exact ⟨hd, ((hleavings.filter _).map _).trans htaken⟩
  known := by
    intro l hl
    rw [hcalls]
    exact h.known l (hleavings.mem_iff.1 hl)
  counted := by rw [hcounted, h.counted, hleavings.countP_eq]
  swept := by rw [hleavings.countP_eq, h.swept, hcalls]
  effects := heffects

/-- What stands at the place `k` has something before it and something after it. -/
theorem exists_split {α : Type} {l : List α} {k : Nat} {a : α} (h : l[k]? = some a) :
    ∃ before after, l = before ++ a :: after ∧ before.length = k := by
  obtain ⟨hk, rfl⟩ := List.getElem?_eq_some_iff.1 h
  exact ⟨l.take k, l.drop (k + 1), by simp, by simp; omega⟩

theorem eraseIdx_split {α : Type} (before after : List α) (a : α) :
    (before ++ a :: after).eraseIdx before.length = before ++ after := by
  rw [List.eraseIdx_append_of_length_le (Nat.le_refl _), Nat.sub_self, List.eraseIdx_cons_zero]

theorem accounted_count (h : S.Accounted f st) (k : Nat) : (S.step f (.count k)).Accounted f st := by
  simp only [step]
  split
  · next l hk =>
    obtain ⟨before, after, hpending, rfl⟩ := exists_split hk
    refine h.of_perm rfl rfl rfl (Nat.le_refl _) rfl ?_ ?_ h.effects
    · simp [leavings, hpending]
    -- what the counter gains is no longer to be counted
    · simp only [hpending, Metrics.notePruned, List.countP_append, List.countP_cons]
      simp
      omega
  · exact h

theorem accounted_finish (h : S.Accounted f st) (k : Nat) :
    (S.step f (.finish k)).Accounted f st := by
  simp only [step]
  split
  · next l hk =>
    -- the leaving that is finished is taken out of those to be finished, wherever it stands among
    -- them
    obtain ⟨before, after, hpending, rfl⟩ := exists_split hk
    split
    · next s hs =>
      have hid : s.id = l.id := SessionTable.id_of_held? hs
      have hlog : endings (S.log ++ [.ended l.call (s.toRecord S.state.clock l.pruned)])
          = endings S.log ++ [(l.call, s.toRecord S.state.clock l.pruned)] := by
        simp [endings, List.filterMap_append]
      refine h.of_perm rfl rfl rfl (Nat.le_refl _) ?_ ?_ ?_ ?_
      · simp [Turnover.created, List.filterMap_append]
      · -- the session moves from those to be finished to those that have been
        simp only [leavings, hlog, hpending, eraseIdx_split, List.map_append, List.map_cons,
          List.map_nil, List.append_assoc, List.cons_append, List.nil_append]
        refine List.Perm.append_left _ ?_
        have hsame : (⟨(s.toRecord S.state.clock l.pruned).id, l.call,
            (s.toRecord S.state.clock l.pruned).pruned⟩ : Leaving) = l := by
          obtain ⟨id, call, pruned⟩ := l
          obtain rfl : s.id = id := hid
          rfl
        rw [hsame]
        exact List.perm_middle.symm
      · simp only [hpending, eraseIdx_split, List.countP_append, List.countP_cons]
        simp [FilterState.finish]
      · rw [List.foldl_append, ← h.effects]
        rfl
    · exact h
  · exact h

theorem accounted_elsewhere (h : S.Accounted f st) (after : FilterState σ)
    (change : Session → Session) : (S.step f (.elsewhere after change)).Accounted f st := by
  have hlog : endings (S.log ++ [.elsewhere after.memory after.queue]) = endings S.log := by
    simp [endings, List.filterMap_append]
  refine h.of_perm rfl ?_ ?_ (Nat.le_max_left ..) ?_ ?_ rfl ?_
  · simp [step, SessionTable.modify, SessionTable.ids, SessionTable.all, Function.comp_def]
  · simp [step, SessionTable.modify, SessionTable.gone, List.filter_map, Function.comp_def]
  · simp [step, Turnover.created, List.filterMap_append]
  · simp only [step, leavings, hlog]
    exact .refl _
  · simp [step, List.foldl_append, Event.effect]

theorem accounted_step (h : S.Accounted f st) (m : Move σ) : (S.step f m).Accounted f st := by
  cases m with
  | create ip port reverseDns => exact accounted_create h ip port reverseDns
  | find id => exact h
  | remove r => exact accounted_remove h r
  | count k => exact accounted_count h k
  | finish k => exact accounted_finish h k
  | elsewhere after change => exact accounted_elsewhere h after change

theorem accounted_run (h : S.Accounted f st) (moves : List (Move σ)) :
    (S.run f moves).Accounted f st := by
  induction moves generalizing S with
  | nil => exact h
  | cons m rest ih => exact ih (accounted_step h m)

theorem Accounted.held (h : S.Accounted f st) {l : Leaving} (hl : l ∈ S.leavings) :
    ∃ s, S.state.sessions.held? l.id = some s := by
  have hgone : l.id ∈ S.state.sessions.gone := h.gone.mem_iff.1 (List.mem_map.2 ⟨l, hl, rfl⟩)
  exact SessionTable.exists_held?_of_mem (S.state.sessions.gone_sublist_ids.subset hgone)

/-! ### Finishing -/

/-- A session is counted and finished by moves of its own, `count` and `finish`. -/
theorem run_one (f : Filter σ) (S : Turnover σ) {before after : List (Leaving × Bool)}
    {l : Leaving} {toCount : Bool} {s : Session}
    (hpending : S.pending = before ++ (l, toCount) :: after)
    (hs : S.state.sessions.held? l.id = some s) :
    ∃ moves, (∀ m ∈ moves, m.IsFinishing) ∧ S.run f moves = { S with
      state := FilterState.finish f l.pruned (if toCount then
        { S.state with metrics := S.state.metrics.notePruned } else S.state) s
      pending := before ++ after
      log := S.log ++ [.ended l.call (s.toRecord S.state.clock l.pruned)] } := by
  have hfinish : ∀ S' : Turnover σ, S'.pending = before ++ (l, false) :: after →
      S'.state.sessions.held? l.id = some s → S'.step f (.finish before.length) = { S' with
        state := FilterState.finish f l.pruned S'.state s
        pending := before ++ after
        log := S'.log ++ [.ended l.call (s.toRecord S'.state.clock l.pruned)] } := by
    intro S' hpending' hs'
    simp [step, hpending', hs', eraseIdx_split]
  cases toCount with
  | false =>
    refine ⟨[.finish before.length], ?_, hfinish S hpending hs⟩
    simp [Move.IsFinishing]
  | true =>
    have hcount : S.step f (.count before.length) = { S with
        state := { S.state with metrics := S.state.metrics.notePruned }
        pending := before ++ (l, false) :: after } := by
      simp [step, hpending]
    refine ⟨[.count before.length, .finish before.length], by simp [Move.IsFinishing], ?_⟩
    show (S.step f (.count before.length)).step f (.finish before.length) = _
    rw [hcount]
    exact hfinish _ rfl hs

theorem run_toEnd (h : S.Accounted f st) :
    ∃ moves, (∀ m ∈ moves, m.IsFinishing) ∧ (S.run f moves).pending = [] := by
  generalize hpending : S.pending = pending
  induction pending generalizing S with
  | nil => exact ⟨[], by simp, hpending⟩
  | cons p rest ih =>
    obtain ⟨l, toCount⟩ := p
    have hl : l ∈ S.leavings := by simp [leavings, hpending]
    obtain ⟨s, hs⟩ := h.held hl
    have hsplit : S.pending = [] ++ (l, toCount) :: rest := hpending
    obtain ⟨moves, hfinishing, hrun⟩ := run_one f S hsplit hs
    have hrest : (S.run f moves).pending = rest := by rw [hrun, List.nil_append]
    -- the accounts are in order again for those that are left
    obtain ⟨moves', hfinishing', hend⟩ := ih (accounted_run h moves) hrest
    exact ⟨moves ++ moves', List.forall_mem_append.2 ⟨hfinishing, hfinishing'⟩,
      by rw [run_append, hend]⟩

/-- What becomes of a removed session if nothing comes in between: `evict` if it has been swept away, and
`finish` otherwise. -/
def atOnce (f : Filter σ) (pruned : Bool) : FilterState σ → Session → FilterState σ :=
  if pruned then FilterState.evict f else FilterState.finish f false

theorem run_removed (f : Filter σ) (call : Nat) (pruned : Bool) (sessions : List Session)
    {before : List (Leaving × Bool)}
    (hpending : S.pending = before ++ sessions.map fun s => (⟨s.id, call, pruned⟩, pruned))
    (hheld : ∀ s ∈ sessions, S.state.sessions.held? s.id = some s) :
    ∃ moves, (∀ m ∈ moves, m.IsFinishing) ∧
      (S.run f moves).state = sessions.foldl (atOnce f pruned) S.state := by
  induction sessions generalizing S with
  | nil => exact ⟨[], by simp, rfl⟩
  | cons s rest ih =>
    obtain ⟨moves, hfinishing, hrun⟩ := run_one f S hpending (hheld s List.mem_cons_self)
    have hstate : (S.run f moves).state = atOnce f pruned S.state s := by
      rw [hrun]
      cases pruned <;> rfl
    have hsessions : (S.run f moves).state.sessions = S.state.sessions := by
      rw [hrun]
      cases pruned <;> rfl
    obtain ⟨moves', hfinishing', hrest⟩ := ih (S := S.run f moves) (by rw [hrun])
      fun s' hs' => by rw [hsessions]; exact hheld s' (List.mem_cons_of_mem _ hs')
    refine ⟨moves ++ moves', List.forall_mem_append.2 ⟨hfinishing, hfinishing'⟩, ?_⟩
    rw [run_append, hrest, hstate, List.foldl_cons]

/-- A call that nothing comes between: its sessions are removed and finished `atOnce`. -/
theorem run_remove (h : S.Accounted f st) (r : Removal) :
    ∃ moves, (∀ m ∈ moves, m.IsFinishing) ∧ (S.run f (.remove r :: moves)).state
      = (r.apply f S.state.sessions).1.foldl (atOnce f r.isSweep)
          { S.state with sessions := (r.apply f S.state.sessions).2 } := by
  refine run_removed (S := S.remove f r) f S.calls.length r.isSweep _ rfl fun s hs => ?_
  rw [Removal.apply_eq] at hs
  have hlive := SessionTable.mem_all_of_mem_live (List.mem_filter.1 hs).1
  have hsame : (S.remove f r).state.sessions.held? s.id = S.state.sessions.held? s.id := by
    rw [SessionTable.held?_eq, SessionTable.held?_eq, remove, Removal.apply_eq,
      SessionTable.all_removeWhere]
  rw [hsame, SessionTable.held?_of_mem h.distinct hlive]

/-! ### Every session ends once -/

/-- What becomes of the sessions of a filter: `ends_once` says that it does. -/
structure EndsOnce (f : Filter σ) (st : FilterState σ) (S : Turnover σ) : Prop where
  /-- A session that has been created and can no longer be found has been finished once, or is still
  to be; no other session is finished. -/
  once : ∀ id, ((endings S.log).map (·.2.id)).count id + (S.pending.map (·.1.id)).count id
    = if id ∈ Turnover.created S.log ∧ S.state.sessions.find? id = none then 1 else 0
  /-- All that is still to be done can be done. -/
  finishes : ∃ moves, (∀ m ∈ moves, m.IsFinishing) ∧ (S.run f moves).pending = []
  /-- For a session that is finished, all modules are told once and one record is added to the queue;
  nothing else that is done to sessions does either. -/
  effects : (S.state.memory, S.state.queue) = S.log.foldl (Event.effect f) (st.memory, st.queue)
  /-- All modules are told: every enabled checker once, and no disabled one. -/
  told : ∀ record memory, Told record f.registry.checkers memory
    (f.registry.sessionEnded record memory)
  /-- The record of a session says whether a sweep has removed it. -/
  record : ∀ e ∈ endings S.log, ∃ c, S.calls[e.1]? = some c ∧ c.Takes f e.2.id ∧
    e.2.pruned = c.removal.isSweep
  /-- A session is removed by one call at most. -/
  apart : ∀ (i j : Nat) (c c' : Call) (id : Uuid), S.calls[i]? = some c → S.calls[j]? = some c' →
    c.Takes f id → c'.Takes f id → i = j
  /-- What a `delete` answers is whether it has removed the session; it never removes another. -/
  answer : ∀ (i : Nat) (c : Call) (id : Uuid), S.calls[i]? = some c → c.removal = .delete id →
    (c.found f = true ↔ c.Takes f id) ∧ ∀ id', c.Takes f id' → id' = id
  /-- The sweeps have answered with the number of sessions to be evicted in all. -/
  evicted : ((endings S.log).countP fun e => e.2.pruned) + S.pending.countP (·.1.pruned)
    = (S.calls.map (Call.swept f)).sum
  /-- Those evicted have been counted, or are still to be. -/
  counted : S.state.metrics.sessionsPruned + S.pending.countP (·.2)
    = st.metrics.sessionsPruned + (S.calls.map (Call.swept f)).sum
  /-- What is done at once in a filter is such a course of moves. -/
  leave : ∀ id, ∃ moves, (∀ m ∈ moves, m.IsFinishing) ∧
    (S.run f (.remove (.delete id) :: moves)).state = S.state.leave f id
  prune : ∀ now, ∃ moves, (∀ m ∈ moves, m.IsFinishing) ∧
    (S.run f (.remove (.sweep now) :: moves)).state = (S.state.prune f now).2

/-- A session that the call `c` takes is one of the `leavings` on behalf of it. -/
theorem Accounted.takes_iff (h : S.Accounted f st) {i : Nat} {c : Call} (hc : S.calls[i]? = some c)
    {id : Uuid} : c.Takes f id ↔ ∃ l ∈ S.leavings, l.call = i ∧ l.id = id := by
  obtain ⟨hd, htaken⟩ := h.taken i c hc
  rw [Call.takes_iff hd, ← htaken.mem_iff, List.mem_map]
  refine exists_congr fun l => ?_
  rw [List.mem_filter, decide_eq_true_eq, and_assoc]

theorem Accounted.once (h : S.Accounted f st) (id : Uuid) :
    ((endings S.log).map (·.2.id)).count id + (S.pending.map (·.1.id)).count id
      = if id ∈ Turnover.created S.log ∧ S.state.sessions.find? id = none then 1 else 0 := by
  have hids : S.leavings.map (·.id)
      = (endings S.log).map (·.2.id) ++ S.pending.map (·.1.id) := by
    simp [leavings, Function.comp_def]
  calc ((endings S.log).map (·.2.id)).count id + (S.pending.map (·.1.id)).count id
    _ = (S.leavings.map (·.id)).count id := by rw [hids, List.count_append]
    _ = S.state.sessions.gone.count id := h.gone.count_eq id
    _ = if id ∈ S.state.sessions.gone then 1 else 0 :=
      (SessionTable.gone_nodup h.distinct).count
    _ = _ := by simp only [SessionTable.mem_gone_iff h.distinct, h.created]

theorem Accounted.apart (h : S.Accounted f st) {i j : Nat} {c c' : Call} {id : Uuid}
    (hc : S.calls[i]? = some c) (hc' : S.calls[j]? = some c') (htakes : c.Takes f id)
    (htakes' : c'.Takes f id) : i = j := by
  obtain ⟨l, hl, rfl, hid⟩ := (h.takes_iff hc).1 htakes
  obtain ⟨l', hl', rfl, hid'⟩ := (h.takes_iff hc').1 htakes'
  have hnodup : (S.leavings.map (·.id)).Nodup :=
    -- nobody leaves twice
    h.gone.nodup_iff.2 (SessionTable.gone_nodup h.distinct)
  rw [List.inj_on_of_nodup_map hnodup hl hl' (hid.trans hid'.symm)]

theorem Accounted.record (h : S.Accounted f st) {e : Nat × SessionRecord}
    (he : e ∈ endings S.log) : ∃ c, S.calls[e.1]? = some c ∧ c.Takes f e.2.id ∧
      e.2.pruned = c.removal.isSweep := by
  have hl : (⟨e.2.id, e.1, e.2.pruned⟩ : Leaving) ∈ S.leavings :=
    List.mem_append_left _ (List.mem_map.2 ⟨e, he, rfl⟩)
  obtain ⟨c, hc, hpruned⟩ := h.known _ hl
  exact ⟨c, hc, (h.takes_iff hc).2 ⟨_, hl, rfl, rfl⟩, hpruned⟩

/-- **Every session that has gone ends exactly once**, in whatever order sessions are created, looked
for, deleted, swept away and finished. -/
theorem ends_once (f : Filter σ) (st : FilterState σ) (moves : List (Move σ)) :
    ((start st).run f moves).EndsOnce f st := by
  have h := accounted_run (accounted_start f st) moves
  generalize (start st).run f moves = S at h
  have hevicted : ((endings S.log).countP fun e => e.2.pruned) + S.pending.countP (·.1.pruned)
      = (S.calls.map (Call.swept f)).sum := by
    rw [← h.swept, leavings, List.countP_append, List.countP_map, List.countP_map]
    rfl
  constructor
  case once => exact h.once
  case finishes => exact run_toEnd h
  case effects => exact h.effects
  case told => exact told_sessionEnded f.registry
  case record => exact fun e he => h.record he
  case apart => exact fun i j c c' id hc hc' => h.apart hc hc'
  case answer =>
    intro i c id hc hdelete
    have hd := (h.taken i c hc).1
    refine ⟨Call.found_iff hd hdelete, fun id' htakes => ?_⟩
    obtain ⟨s, hs, rfl⟩ := List.mem_map.1 ((Call.takes_iff hd).1 htakes)
    exact Call.id_of_delete hdelete hs
  case evicted => exact hevicted
  case counted =>
    rw [h.counted, h.swept]
  case leave => exact fun id => run_remove h (.delete id)
  case prune => exact fun now => run_remove h (.sweep now)

end Turnover

end MailFilter

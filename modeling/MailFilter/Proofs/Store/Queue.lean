/-
The queue of records under way: whatever adds to it, its writer, and those who shut it down.

Records are added at any time, the writer takes one after the other and gives it to the store, and a
shutdown closes the queue and waits for the writer; several may be under way, of which one waits for
the writer and the others for that one. `Queue.Service` allows for every order of these steps. Its log
says nothing of whether a record could be saved, so nothing in it can hang on that.

* `ordered_step`: what has been accepted has been given to the store or is still on its way, in order;
* `attended_step`: a shutdown is over only when the writer is;
* `run_work`: the writer at work is what `Queue.drain` does at once;
* `queue_faithful`: the results for every order of the steps.
-/
import MailFilter.Store.Queue

namespace MailFilter.Queue

variable {τ τ' : Type}

/-! ### Steps -/

/-- Closes a `Queue`: it takes no more records. -/
def close (q : Queue τ) : Queue τ :=
  { q with isOpen := false }

/-- Whether the writer has nothing more to wait for. -/
def isSpent (q : Queue τ) : Bool :=
  !q.isOpen && q.unsaved.isEmpty && !q.isFlushed

/-- The writer comes to its end. -/
def finish (ops : Saving τ) (q : Queue τ) : Queue τ :=
  { q with isFlushed := true, store := (ops.flush q.store).2 }

/-- What has happened to a `Queue`. -/
inductive Event where
  | accepted (r : Record)
  | dropped (r : Record)
  /-- The store has been asked to save a record. -/
  | given (r : Record)
  | flushed
  | closed

/-- What may happen to a `Queue` next. -/
inductive Move where
  | enqueue (r : Record)
  /-- The writer takes a record. -/
  | receive
  /-- The writer gives the record in hand to the store. -/
  | save
  /-- The writer comes to its end. -/
  | finish
  /-- A shutdown begins. -/
  | shutdown
  /-- A shutdown goes on to wait for the writer, unless another one does so already. -/
  | await (i : Nat)
  /-- A shutdown finds that the writer has come to its end. -/
  | join (i : Nat)

/-- Whether a move adds no record and begins no shutdown. -/
def Move.IsWork : Move → Prop
  | enqueue _ | shutdown => False
  | receive | save | finish | await _ | join _ => True

end MailFilter.Queue

namespace MailFilter

/-- A `Queue`, those who shut it down, and what has happened so far. -/
structure Queue.Service (τ : Type) where
  queue : Queue τ
  /-- The shutdowns that have begun, and whether they are over. -/
  shutdowns : List Bool := []
  /-- The shutdown that waits for the writer. -/
  awaiting : Option Nat := none
  /-- Whether a shutdown has gone on to wait for the writer; none does so again. -/
  isAwaited : Bool := false
  log : List Queue.Event := []

namespace Queue

variable {τ τ' : Type}

/-- The records that have been accepted, by the `log`. -/
def accepted (log : List Event) : List Record :=
  log.filterMap fun
    | .accepted r => some r
    | _ => none

/-- The records that have been given to the store, by the `log`. -/
def given (log : List Event) : List Record :=
  log.filterMap fun
    | .given r => some r
    | _ => none

@[simp] theorem accepted_append (log log' : List Event) :
    accepted (log ++ log') = accepted log ++ accepted log' :=
  List.filterMap_append

@[simp] theorem given_append (log log' : List Event) :
    given (log ++ log') = given log ++ given log' :=
  List.filterMap_append

/-- The store has been flushed once, when all that was ever `accepted` had been `given` to it. -/
def FlushedLast (log : List Event) : Prop :=
  ∃ before after, log = before ++ .flushed :: after ∧ .flushed ∉ before ∧ .flushed ∉ after ∧
    given before = accepted log

theorem FlushedLast.concat {log : List Event} (h : FlushedLast log) {e : Event}
    (he : .flushed ≠ e) (hnone : accepted [e] = []) : FlushedLast (log ++ [e]) := by
  obtain ⟨before, after, rfl, hbefore, hafter, hgiven⟩ := h
  refine ⟨before, after ++ [e], by simp, hbefore, ?_, ?_⟩
  · simp [hafter, he]
  · rw [accepted_append, hnone, List.append_nil]
    exact hgiven

namespace Service

def start (capacity : Nat) (store : τ) : Service τ :=
  { queue := Queue.new capacity store }

def step (ops : Saving τ) (S : Service τ) : Move → Service τ
  | .enqueue r =>
    { S with
      queue := S.queue.enqueue r
      log := S.log ++ [if S.queue.accepts then .accepted r else .dropped r] }
  | .receive => { S with queue := S.queue.receive }
  | .save =>
    { S with queue := S.queue.save ops, log := S.log ++ S.queue.inHand.toList.map .given }
  | .finish =>
    if S.queue.isSpent then { S with queue := S.queue.finish ops, log := S.log ++ [.flushed] } else S
  | .shutdown =>
    { S with queue := S.queue.close, shutdowns := S.shutdowns ++ [false], log := S.log ++ [.closed] }
  | .await i =>
    if S.shutdowns[i]? = some false ∧ S.awaiting = none then
      if S.isAwaited then { S with shutdowns := S.shutdowns.set i true }
      else { S with awaiting := some i, isAwaited := true }
    else S
  | .join i =>
    if S.awaiting = some i ∧ S.queue.isFlushed then
      { S with shutdowns := S.shutdowns.set i true, awaiting := none }
    else S

def run (ops : Saving τ) (S : Service τ) (moves : List Move) : Service τ :=
  moves.foldl (step ops) S

theorem run_append (ops : Saving τ) (S : Service τ) (moves moves' : List Move) :
    S.run ops (moves ++ moves') = (S.run ops moves).run ops moves' :=
  List.foldl_append

/-! ### The order of the records -/

/-- What has happened to the records: all that have been `accepted` have been `given` to the store or are
still `unsaved`, and at the end of the writer none is. -/
structure Ordered (ops : Saving τ) (capacity : Nat) (store : τ) (S : Service τ) : Prop where
  capacity : S.queue.capacity = max capacity 1
  room : S.queue.waiting.length ≤ S.queue.capacity
  accepted : accepted S.log = given S.log ++ S.queue.unsaved
  closed : S.queue.isOpen = false ↔ .closed ∈ S.log
  store : S.queue.store = if S.queue.isFlushed then (ops.flush (saveAll ops (given S.log) store)).2
    else saveAll ops (given S.log) store
  spent : S.queue.isFlushed = true → S.queue.isOpen = false ∧ S.queue.unsaved = []
  flushed : S.queue.isFlushed = true → FlushedLast S.log
  unflushed : S.queue.isFlushed = false → .flushed ∉ S.log

variable {ops : Saving τ} {capacity : Nat} {store : τ} {S : Service τ}

theorem ordered_start (ops : Saving τ) (capacity : Nat) (store : τ) :
    (start capacity store).Ordered ops capacity store where
  capacity := rfl
  room := Nat.zero_le _
  accepted := rfl
  closed := by simp [start, Queue.new]
  store := rfl
  spent := by rintro ⟨⟩
  flushed := by rintro ⟨⟩
  unflushed := by simp [start]

/-- The writer of a queue that is open has not come to its end. -/
theorem Ordered.isFlushed_of_isOpen (h : S.Ordered ops capacity store) (hopen : S.queue.isOpen = true) :
    S.queue.isFlushed = false := by
  rw [Bool.eq_false_iff]
  intro hflushed
  have hclosed := (h.spent hflushed).1
  rw [hopen] at hclosed
  cases hclosed

/-- A record that the queue `accepts` keeps `Ordered`: it is the last of those `unsaved`. -/
theorem Ordered.accept (h : S.Ordered ops capacity store) (r : Record)
    (hacc : S.queue.accepts = true) :
    ({ S with
      queue := { S.queue with waiting := S.queue.waiting ++ [r] }
      log := S.log ++ [.accepted r] } : Service τ).Ordered ops capacity store := by
  rw [accepts, Bool.and_eq_true, decide_eq_true_eq] at hacc
  obtain ⟨hopen, hroom⟩ := hacc
  have hunflushed := h.isFlushed_of_isOpen hopen
  constructor
  case capacity => exact h.capacity
  case room =>
    show (S.queue.waiting ++ [r]).length ≤ _
    rw [List.length_append]
    exact hroom
  case accepted =>
    show Queue.accepted (S.log ++ [.accepted r]) = given (S.log ++ [.accepted r]) ++ _
    rw [accepted_append, given_append, h.accepted]
    simp [unsaved, Queue.accepted, given]
  case closed => simpa [hopen] using h.closed
  case store =>
    show S.queue.store = if S.queue.isFlushed then
      (ops.flush (saveAll ops (given (S.log ++ [.accepted r])) store)).2
      else saveAll ops (given (S.log ++ [.accepted r])) store
    rw [given_append]
    simpa [given] using h.store
  case spent =>
    intro hflushed
    rw [hunflushed] at hflushed
    cases hflushed
  case flushed =>
    intro hflushed
    rw [hunflushed] at hflushed
    cases hflushed
  case unflushed =>
    simpa using fun _ => h.unflushed hunflushed

/-- A record that is dropped keeps `Ordered`: it is nothing to the queue. -/
theorem Ordered.drop (h : S.Ordered ops capacity store) (r : Record) :
    ({ S with log := S.log ++ [.dropped r] } : Service τ).Ordered ops capacity store := by
  constructor
  case capacity => exact h.capacity
  case room => exact h.room
  case accepted =>
    show Queue.accepted (S.log ++ [.dropped r]) = given (S.log ++ [.dropped r]) ++ S.queue.unsaved
    rw [accepted_append, given_append, h.accepted]
    simp [Queue.accepted, given]
  case closed =>
    rw [h.closed]
    simp
  case store =>
    show S.queue.store = if S.queue.isFlushed then
      (ops.flush (saveAll ops (given (S.log ++ [.dropped r])) store)).2
      else saveAll ops (given (S.log ++ [.dropped r])) store
    rw [given_append]
    simpa [given] using h.store
  case spent => exact h.spent
  case flushed => exact fun hflushed => (h.flushed hflushed).concat (by rintro ⟨⟩) rfl
  case unflushed => simpa using h.unflushed

theorem ordered_enqueue (h : S.Ordered ops capacity store) (r : Record) :
    (S.step ops (.enqueue r)).Ordered ops capacity store := by
  simp only [step, Queue.enqueue]
  cases hacc : S.queue.accepts with
  | true =>
    rw [if_pos rfl, if_pos rfl]
    exact h.accept r hacc
  | false =>
    rw [if_neg Bool.false_ne_true, if_neg Bool.false_ne_true]
    exact h.drop r

theorem ordered_receive (h : S.Ordered ops capacity store) :
    (S.step ops .receive).Ordered ops capacity store := by
  show ({ S with queue := S.queue.receive } : Service τ).Ordered ops capacity store
  unfold Queue.receive
  split
  · next r rest hhand hwaiting =>
    have hunsaved : S.queue.unsaved = r :: rest := by simp [unsaved, hhand, hwaiting]
    have hroom := h.room
    rw [hwaiting, List.length_cons] at hroom
    have hsame : ({ S.queue with waiting := rest, inHand := some r } : Queue τ).unsaved
        = S.queue.unsaved := hunsaved.symm
    exact ⟨h.capacity, Nat.le_of_succ_le hroom, hsame ▸ h.accepted, h.closed, h.store,
      hsame ▸ h.spent, h.flushed, h.unflushed⟩
  · exact h

theorem ordered_save (h : S.Ordered ops capacity store) :
    (S.step ops .save).Ordered ops capacity store := by
  cases hhand : S.queue.inHand with
  | none =>
    have hsame : S.step ops .save = S := by
      simp only [step, Queue.save, hhand, Option.toList_none, List.map_nil, List.append_nil]
    rw [hsame]
    exact h
  | some r =>
    have hlog : (S.step ops .save).log = S.log ++ [.given r] := by
      simp only [step, hhand, Option.toList_some, List.map_cons, List.map_nil]
    have hqueue : (S.step ops .save).queue
        = { S.queue with inHand := none, store := (ops.save r S.queue.store).2 } := by
      simp only [step, Queue.save, hhand]
    have hunsaved : S.queue.unsaved = r :: S.queue.waiting := by simp [unsaved, hhand]
    -- a writer with a record in hand has not come to its end
    have hunflushed : S.queue.isFlushed = false := by
      rw [Bool.eq_false_iff]
      intro hflushed
      have hnil := (h.spent hflushed).2
      rw [hunsaved] at hnil
      cases hnil
    constructor
    case capacity =>
      rw [hqueue]
      exact h.capacity
    case room =>
      rw [hqueue]
      exact h.room
    case accepted =>
      rw [hlog, hqueue, accepted_append, given_append, h.accepted, hunsaved]
      simp [unsaved, Queue.accepted, given]
    case closed =>
      rw [hlog, hqueue]
      simpa using h.closed
    case store =>
      have hstore := h.store
      rw [hunflushed, if_neg Bool.false_ne_true] at hstore
      rw [hlog, hqueue, given_append]
      simp [hunflushed, hstore, given, saveAll]
    case spent =>
      rw [hqueue]
      simp [hunflushed]
    case flushed =>
      rw [hqueue]
      simp [hunflushed]
    case unflushed =>
      rw [hlog]
      simpa using fun _ => h.unflushed hunflushed

theorem ordered_finish (h : S.Ordered ops capacity store) :
    (S.step ops .finish).Ordered ops capacity store := by
  show (if S.queue.isSpent then ({ S with
    queue := S.queue.finish ops, log := S.log ++ [.flushed] } : Service τ) else S).Ordered ..
  split
  · next hspent =>
    simp only [isSpent, Bool.and_eq_true, Bool.not_eq_true', List.isEmpty_iff] at hspent
    obtain ⟨⟨hclosed, hnil⟩, hunflushed⟩ := hspent
    -- the writer ends when nothing is left to be saved: all that was accepted has been given
    have hall : given S.log = Queue.accepted S.log := by rw [h.accepted, hnil, List.append_nil]
    constructor
    case capacity => exact h.capacity
    case room => exact h.room
    case accepted =>
      rw [accepted_append, given_append, h.accepted]
      simp [Queue.accepted, given, unsaved, Queue.finish]
    case closed =>
      simpa [Queue.finish] using h.closed
    case store =>
      have hstore := h.store
      rw [hunflushed, if_neg Bool.false_ne_true] at hstore
      simp [Queue.finish, hstore, given]
    case spent => exact fun _ => ⟨hclosed, hnil⟩
    case flushed =>
      refine fun _ => ⟨S.log, [], rfl, h.unflushed hunflushed, by simp, ?_⟩
      rw [accepted_append, hall]
      exact (List.append_nil _).symm
    case unflushed =>
      rintro ⟨⟩
  · exact h

theorem ordered_shutdown (h : S.Ordered ops capacity store) :
    (S.step ops .shutdown).Ordered ops capacity store where
  capacity := h.capacity
  room := h.room
  accepted := by
    show Queue.accepted (S.log ++ [.closed]) = given (S.log ++ [.closed]) ++ S.queue.unsaved
    rw [accepted_append, given_append, h.accepted]
    simp [Queue.accepted, given]
  closed := by simp [step, close]
  store := by
    show S.queue.store = if S.queue.isFlushed
      then (ops.flush (saveAll ops (given (S.log ++ [.closed])) store)).2
      else saveAll ops (given (S.log ++ [.closed])) store
    simpa [given] using h.store
  spent := fun hflushed => ⟨rfl, (h.spent hflushed).2⟩
  flushed := fun hflushed => (h.flushed hflushed).concat (by rintro ⟨⟩) rfl
  unflushed := by simpa [step, close] using h.unflushed

theorem ordered_step (h : S.Ordered ops capacity store) (m : Move) :
    (S.step ops m).Ordered ops capacity store := by
  -- who waits for the writer makes no difference to the records
  have hsame : ∀ S' : Service τ, S'.queue = S.queue → S'.log = S.log →
      S'.Ordered ops capacity store := by
    rintro ⟨queue, shutdowns, awaiting, isAwaited, log⟩ rfl rfl
    exact ⟨h.1, h.2, h.3, h.4, h.5, h.6, h.7, h.8⟩
  cases m with
  | enqueue r => exact ordered_enqueue h r
  | receive => exact ordered_receive h
  | save => exact ordered_save h
  | finish => exact ordered_finish h
  | shutdown => exact ordered_shutdown h
  | await i =>
    refine hsame _ ?_ ?_ <;> (simp only [step]; split <;> first | rfl | (split <;> rfl))
  | join i => refine hsame _ ?_ ?_ <;> (simp only [step]; split <;> rfl)

theorem ordered_run (h : S.Ordered ops capacity store) (moves : List Move) :
    (S.run ops moves).Ordered ops capacity store := by
  induction moves generalizing S with
  | nil => exact h
  | cons m rest ih => exact ih (ordered_step h m)

/-! ### Shutdowns -/

/-- How far those have come who shut the queue down. -/
structure Attended (S : Service τ) : Prop where
  begun : S.shutdowns ≠ [] → S.queue.isOpen = false
  ended : true ∈ S.shutdowns → S.queue.isFlushed = true
  awaited : S.isAwaited = true → S.awaiting = none → S.queue.isFlushed = true
  awaiting : S.awaiting ≠ none → S.isAwaited = true

theorem attended_start (capacity : Nat) (store : τ) : (start capacity store).Attended where
  begun := fun h => absurd rfl h
  ended := by rintro ⟨⟩
  awaited := by rintro ⟨⟩
  awaiting := fun h => absurd rfl h

/-- What goes on in the queue does no harm to those who shut it down, who stay `Attended`: it is never
opened again, and its writer has no second end. -/
theorem Attended.of_queue (h : S.Attended) {queue : Queue τ} (log : List Event)
    (hopen : S.queue.isOpen = false → queue.isOpen = false)
    (hflushed : S.queue.isFlushed = true → queue.isFlushed = true) :
    ({ S with queue, log } : Service τ).Attended :=
  ⟨fun hne => hopen (h.begun hne), fun hover => hflushed (h.ended hover),
    fun hawaited hnone => hflushed (h.awaited hawaited hnone), h.awaiting⟩

theorem attended_await (h : S.Attended) (i : Nat) : (S.step ops (.await i)).Attended := by
  simp only [step]
  split
  · next hi =>
    obtain ⟨hi, hnone⟩ := hi
    have hne : S.shutdowns ≠ [] := by
      intro hnil
      rw [hnil] at hi
      cases hi
    split
    · next hawaited =>
      -- the one before has been told that the writer has come to its end
      have hflushed := h.awaited hawaited hnone
      exact ⟨fun _ => h.begun hne, fun _ => hflushed, fun _ _ => hflushed, h.awaiting⟩
    · refine ⟨fun _ => h.begun hne, h.ended, ?_, fun _ => rfl⟩
      rintro - ⟨⟩
  · exact h

theorem attended_join (h : S.Attended) (i : Nat) : (S.step ops (.join i)).Attended := by
  simp only [step]
  split
  · next hi =>
    obtain ⟨-, hflushed⟩ := hi
    refine ⟨fun hne => h.begun fun hnil => hne ?_, fun _ => hflushed, fun _ _ => hflushed,
      fun hne => absurd rfl hne⟩
    rw [hnil, List.set_nil]
  · exact h

theorem attended_step (h : S.Attended) (m : Move) : (S.step ops m).Attended := by
  cases m with
  | enqueue r =>
    refine h.of_queue _ ?_ ?_ <;> (unfold Queue.enqueue; split <;> exact id)
  | receive => refine h.of_queue _ ?_ ?_ <;> (unfold Queue.receive; split <;> exact id)
  | save => refine h.of_queue _ ?_ ?_ <;> (unfold Queue.save; split <;> exact id)
  | finish =>
    simp only [step]
    split
    · exact h.of_queue _ id fun _ => rfl
    · exact h
  | shutdown =>
    refine ⟨fun _ => rfl, fun hover => h.ended ?_, h.awaited, h.awaiting⟩
    simpa [step] using hover
  | await i => exact attended_await h i
  | join i => exact attended_join h i

theorem attended_run (ops : Saving τ) (h : S.Attended) (moves : List Move) :
    (S.run ops moves).Attended := by
  induction moves generalizing S with
  | nil => exact h
  | cons m rest ih => exact ih (attended_step h m)

/-! ### The writer at work -/

theorem run_waiting (ops : Saving τ) (S : Service τ) (h : S.queue.inHand = none) :
    ∃ moves, (∀ m ∈ moves, m.IsWork) ∧ S.run ops moves
      = { S with queue := S.queue.drain ops, log := S.log ++ S.queue.unsaved.map .given } := by
  obtain ⟨⟨capacity, isOpen, waiting, inHand, isFlushed, store⟩, shutdowns, awaiting, isAwaited,
    log⟩ := S
  obtain rfl : inHand = none := h
  -- for any store and any log: each record that is saved changes both
  induction waiting generalizing store log with
  | nil => exact ⟨[], by simp, by simp [run, drain, unsaved, saveAll]⟩
  | cons r rest ih =>
    obtain ⟨moves, hwork, hrun⟩ := ih (log ++ [.given r]) (ops.save r store).2
    refine ⟨.receive :: .save :: moves, ?_, ?_⟩
    · simpa [Move.IsWork] using hwork
    · refine Eq.trans ?_ (hrun.trans ?_)
      · rfl
      · simp [drain, unsaved, saveAll]

/-- **What `drain` does at once is what the writer works off step by step.** -/
theorem run_work (ops : Saving τ) (S : Service τ) :
    ∃ moves, (∀ m ∈ moves, m.IsWork) ∧ S.run ops moves
      = { S with queue := S.queue.drain ops, log := S.log ++ S.queue.unsaved.map .given } := by
  cases hhand : S.queue.inHand with
  | none => exact run_waiting ops S hhand
  | some r =>
    have hsave : (S.step ops .save).queue = { S.queue with
        inHand := none, store := (ops.save r S.queue.store).2 } := by
      simp only [step, Queue.save, hhand]
    obtain ⟨moves, hwork, hrun⟩ := run_waiting ops (S.step ops .save) (by rw [hsave])
    refine ⟨.save :: moves, ?_, hrun.trans ?_⟩
    · simpa [Move.IsWork] using hwork
    · rw [hsave]
      simp [step, drain, unsaved, saveAll, hhand]

theorem run_finish (ops : Saving τ) (hclosed : S.queue.isOpen = false)
    (hunflushed : S.queue.isFlushed = false) :
    ∃ moves, (∀ m ∈ moves, m.IsWork) ∧ S.run ops moves = { S with
      queue := (S.queue.drain ops).finish ops
      log := S.log ++ S.queue.unsaved.map .given ++ [.flushed] } := by
  obtain ⟨moves, hwork, hrun⟩ := run_work ops S
  have hspent : (S.queue.drain ops).isSpent = true := by
    simp [isSpent, drain, unsaved, hclosed, hunflushed]
  have hwork' : ∀ m ∈ [Move.finish], m.IsWork := List.forall_mem_singleton.2 trivial
  refine ⟨moves ++ [.finish], List.forall_mem_append.2 ⟨hwork, hwork'⟩, ?_⟩
  rw [run_append, hrun]
  show (if (S.queue.drain ops).isSpent then _ else _) = _
  rw [if_pos hspent]

theorem run_toEnd (ops : Saving τ) (hclosed : S.queue.isOpen = false) :
    ∃ moves, (∀ m ∈ moves, m.IsWork) ∧ ∃ queue log, queue.isFlushed = true ∧
      S.run ops moves = { S with queue, log } := by
  cases hflushed : S.queue.isFlushed with
  | true => exact ⟨[], by simp, S.queue, S.log, hflushed, rfl⟩
  | false =>
    obtain ⟨moves, hwork, hrun⟩ := run_finish ops hclosed hflushed
    exact ⟨moves, hwork, _, _, rfl, hrun⟩

/-- **Shutting a queue down at once with `shutdown` is a shutdown step by step.** -/
theorem run_shutdown (ops : Saving τ) (S : Service τ) (h : S.queue.isFlushed = false) :
    ∃ moves, (∀ m ∈ moves, m.IsWork) ∧
      (S.run ops (.shutdown :: moves)).queue = S.queue.shutdown ops := by
  have hunflushed : (S.step ops .shutdown).queue.isFlushed = false := h
  obtain ⟨moves, hwork, hrun⟩ := run_finish ops rfl hunflushed
  refine ⟨moves, hwork, ?_⟩
  show ((S.step ops .shutdown).run ops moves).queue = _
  rw [hrun]
  show _ = if (S.queue.close.drain ops).isFlushed then _ else _
  rw [if_neg (by simp [close, drain, h])]
  rfl

theorem returns (ops : Saving τ) (hA : S.Attended) {i : Nat}
    (hi : i < S.shutdowns.length) :
    ∃ moves, (∀ m ∈ moves, m.IsWork) ∧ (S.run ops moves).shutdowns[i]? = some true := by
  have hne : S.shutdowns ≠ [] := List.ne_nil_of_length_pos (Nat.zero_lt_of_lt hi)
  obtain ⟨moves, hwork, queue, log, hflushed, hrun⟩ := run_toEnd ops (hA.begun hne)
  -- when the writer is over, so is the shutdown that waits for it
  obtain ⟨S₁, moves₁, hwork₁, hrun₁, hlength, hnone, hflushed₁⟩ : ∃ (S₁ : Service τ) (moves₁ : _),
      (∀ m ∈ moves₁, m.IsWork) ∧ S.run ops moves₁ = S₁ ∧ i < S₁.shutdowns.length ∧
        S₁.awaiting = none ∧ S₁.queue.isFlushed = true := by
    cases hj : S.awaiting with
    | none => exact ⟨_, moves, hwork, hrun, hi, hj, hflushed⟩
    | some j =>
      refine ⟨{ S with queue, log, shutdowns := S.shutdowns.set j true, awaiting := none },
        moves ++ [.join j], ?_, ?_, by simpa using hi, rfl, hflushed⟩
      · exact List.forall_mem_append.2 ⟨hwork, List.forall_mem_singleton.2 trivial⟩
      · rw [run_append, hrun]
        show (if _ then _ else _) = _
        rw [if_pos ⟨hj, hflushed⟩]
  -- the one in question may be that shutdown, or it has still to wait its turn
  obtain ⟨isOver, hover⟩ : ∃ b, S₁.shutdowns[i]? = some b := ⟨_, List.getElem?_eq_getElem hlength⟩
  have hset : (S₁.shutdowns.set i true)[i]? = some true := List.getElem?_set_self hlength
  cases isOver with
  | true => exact ⟨moves₁, hwork₁, hrun₁ ▸ hover⟩
  | false =>
    refine ⟨moves₁ ++ [.await i, .join i], List.forall_mem_append.2 ⟨hwork₁, ?_⟩, ?_⟩
    · simp [Move.IsWork]
    · -- it waits for the writer, or it finds that another one has
      rw [run_append, hrun₁]
      show ((S₁.step ops (.await i)).step ops (.join i)).shutdowns[i]? = some true
      cases hawaited : S₁.isAwaited with
      | true =>
        have hawait : S₁.step ops (.await i)
            = { S₁ with shutdowns := S₁.shutdowns.set i true } := by
          simp only [step]
          rw [if_pos ⟨hover, hnone⟩, if_pos hawaited]
        rw [hawait]
        show (if S₁.awaiting = some i ∧ _ then _ else _ : Service τ).shutdowns[i]? = some true
        rw [hnone, if_neg (by rintro ⟨⟨⟩, -⟩)]
        exact hset
      | false =>
        have hawait : S₁.step ops (.await i) = { S₁ with awaiting := some i, isAwaited := true } := by
          simp only [step]
          rw [if_pos ⟨hover, hnone⟩, if_neg (by simp [hawaited])]
        rw [hawait]
        show (if _ then _ else _ : Service τ).shutdowns[i]? = some true
        rw [if_pos ⟨rfl, hflushed₁⟩]
        exact hset

/-! ### Whatever the store makes of it -/

/-- A `Service` without the store. -/
def course (S : Service τ) : Service Unit :=
  { S with queue := { S.queue with store := () } }

/-- Saving into a store that keeps nothing. -/
def heedless : Saving Unit := { save := fun _ _ => (.ok (), ()) }

/-- Whether records can be saved changes nothing in the `course` of a service, only the store. -/
theorem course_step (ops : Saving τ) (S : Service τ) (m : Move) :
    (S.step ops m).course = S.course.step heedless m := by
  -- no move looks at the store, except to save into it
  cases m with
  | enqueue r =>
    have haccepts : S.course.queue.accepts = S.queue.accepts := rfl
    by_cases hacc : S.queue.accepts = true
    · simp only [step, Queue.enqueue, haccepts, hacc, if_true]
      rfl
    · simp only [step, Queue.enqueue, haccepts, hacc]
      rfl
  | receive =>
    obtain ⟨⟨_, _, _ | ⟨r, rest⟩, _ | hand, _, _⟩, _, _, _, _⟩ := S <;> rfl
  | save =>
    obtain ⟨⟨_, _, _, _ | hand, _, _⟩, _, _, _, _⟩ := S <;> rfl
  | finish =>
    have hsame : S.course.queue.isSpent = S.queue.isSpent := rfl
    by_cases hspent : S.queue.isSpent = true
    · simp only [step, hsame, hspent, if_true]
      rfl
    · simp only [step, hsame, hspent]
      rfl
  | shutdown => rfl
  | await i =>
    by_cases hi : S.shutdowns[i]? = some false ∧ S.awaiting = none
    · have hi' : S.course.shutdowns[i]? = some false ∧ S.course.awaiting = none := hi
      by_cases hawaited : S.isAwaited = true
      · have hawaited' : S.course.isAwaited = true := hawaited
        simp only [step, if_pos hi, if_pos hi', if_pos hawaited, if_pos hawaited']
        rfl
      · have hawaited' : ¬ S.course.isAwaited = true := hawaited
        simp only [step, if_pos hi, if_pos hi', if_neg hawaited, if_neg hawaited']
        rfl
    · have hi' : ¬ (S.course.shutdowns[i]? = some false ∧ S.course.awaiting = none) := hi
      simp only [step, if_neg hi, if_neg hi']
  | join i =>
    by_cases hi : S.awaiting = some i ∧ S.queue.isFlushed = true
    · have hi' : S.course.awaiting = some i ∧ S.course.queue.isFlushed = true := hi
      simp only [step, if_pos hi, if_pos hi']
      rfl
    · have hi' : ¬ (S.course.awaiting = some i ∧ S.course.queue.isFlushed = true) := hi
      simp only [step, if_neg hi, if_neg hi']

theorem course_run (ops : Saving τ) (S : Service τ) (moves : List Move) :
    (S.run ops moves).course = S.course.run heedless moves := by
  induction moves generalizing S with
  | nil => rfl
  | cons m rest ih =>
    show ((S.step ops m).run ops rest).course = (S.course.step heedless m).run heedless rest
    rw [ih, course_step]

/-! ### Records on their way -/

/-- What a `Service` makes of the records that are added to it. -/
structure Faithful (ops : Saving τ) (capacity : Nat) (store : τ) (S : Service τ) : Prop where
  /-- The store has been given the records accepted first, each once and in this order. -/
  order : given S.log <+: accepted S.log
  /-- Those accepted and not given to it yet are on their way. -/
  underway : accepted S.log = given S.log ++ (S.queue.inHand.toList ++ S.queue.waiting)
  /-- What has become of the store is what comes of giving it these records one by one. -/
  store : S.queue.store = if S.queue.isFlushed then (ops.flush (saveAll ops (given S.log) store)).2
    else saveAll ops (given S.log) store
  /-- A record is dropped if the queue is full or a shutdown has begun, and only then. -/
  dropped : ∀ r, (S.step ops (.enqueue r)).log = S.log ++ [.dropped r] ↔
    S.queue.waiting.length = max capacity 1 ∨ .closed ∈ S.log
  /-- When a shutdown is over, the store has been flushed after it had been given all records that
  were accepted. -/
  ended : true ∈ S.shutdowns → FlushedLast S.log
  /-- A shutdown that has begun comes to its end if the writer goes on. -/
  ends : ∀ i < S.shutdowns.length, ∃ moves, (∀ m ∈ moves, m.IsWork) ∧
    (S.run ops moves).shutdowns[i]? = some true
  /-- What the queue drains at once is what the writer works off step by step. -/
  drained : ∃ moves, (∀ m ∈ moves, m.IsWork) ∧ (S.run ops moves).queue = S.queue.drain ops
  /-- Shutting the queue down at once is a shutdown step by step. -/
  shutDown : S.queue.isFlushed = false → ∃ moves, (∀ m ∈ moves, m.IsWork) ∧
    (S.run ops (.shutdown :: moves)).queue = S.queue.shutdown ops

theorem Ordered.dropped (h : S.Ordered ops capacity store) (r : Record) :
    (S.step ops (.enqueue r)).log = S.log ++ [.dropped r] ↔
      S.queue.waiting.length = max capacity 1 ∨ .closed ∈ S.log := by
  have hlog : (S.step ops (.enqueue r)).log
      = S.log ++ [if S.queue.accepts then .accepted r else .dropped r] := rfl
  have hroom := h.room
  rw [hlog, List.append_cancel_left_eq, ← h.closed, ← h.capacity]
  cases hacc : S.queue.accepts with
  | true =>
    rw [accepts, Bool.and_eq_true, decide_eq_true_eq] at hacc
    constructor
    · rintro ⟨⟩
    · rintro (hfull | hclosed)
      · omega
      · rw [hacc.1] at hclosed
        cases hclosed
  | false =>
    rw [accepts, Bool.and_eq_false_iff, decide_eq_false_iff_not] at hacc
    refine ⟨fun _ => ?_, fun _ => rfl⟩
    rcases hacc with hclosed | hfull
    · exact .inr hclosed
    · exact .inl (by omega)

/-- **The queue is `Faithful`: it neither loses, duplicates nor reorders the records that it accepts**,
whoever adds to it, whatever the store makes of them and whoever shuts it down meanwhile. Which records
are accepted and given to the store does not hang on whether it can save them. -/
theorem queue_faithful (ops : Saving τ) (capacity : Nat) (store : τ) (moves : List Move) :
    ((start capacity store).run ops moves).Faithful ops capacity store ∧
    ∀ {τ' : Type} (ops' : Saving τ') (store' : τ'),
      ((start capacity store').run ops' moves).log = ((start capacity store).run ops moves).log := by
  have hO := ordered_run (ordered_start ops capacity store) moves
  have hA := attended_run ops (attended_start capacity store) moves
  refine ⟨⟨⟨_, hO.accepted.symm⟩, hO.accepted, hO.store, hO.dropped,
    fun hover => hO.flushed (hA.ended hover), fun i hi => returns ops hA hi, ?_,
    run_shutdown ops _⟩, ?_⟩
  · obtain ⟨work, hwork, hrun⟩ := run_work ops ((start capacity store).run ops moves)
    exact ⟨work, hwork, by rw [hrun]⟩
  · intro τ' ops' store'
    have hcourse := (course_run ops' (start capacity store') moves).trans
      (course_run ops (start capacity store) moves).symm
    exact congrArg Service.log hcourse

end Service

end Queue

end MailFilter

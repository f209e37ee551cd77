/-
The queue in front of a store.

Adding a record never waits: a record that finds the queue full or closed is dropped. A writer takes
the records one after the other, and a failed save concerns no other record.
-/
import MailFilter.Fault
import MailFilter.Record

namespace MailFilter

/-- Records on their way to a store: `waiting` ones, and one that the writer has `inHand`. -/
structure Queue (τ : Type) where
  capacity : Nat
  isOpen : Bool := true
  /-- The records that the writer has not taken yet, earliest first. -/
  waiting : List Record := []
  /-- The record that the writer is about to save. -/
  inHand : Option Record := none
  /-- Whether the writer has come to its end and has flushed the store. -/
  isFlushed : Bool := false
  store : τ

/-- What a queue asks of a store: to `save` a record, and to `flush` in the end. -/
structure Saving (τ : Type) where
  save : Record → τ → Except Fault Unit × τ
  flush : τ → Except Fault Unit × τ := fun store => (.ok (), store)

namespace Queue

variable {τ : Type}

/-- An empty queue; its `capacity` is one at least. -/
def new (capacity : Nat) (store : τ) : Queue τ :=
  { capacity := max capacity 1, store }

/-- Whether a record added now is kept: the queue `isOpen` and has room. -/
def accepts (q : Queue τ) : Bool :=
  q.isOpen && q.waiting.length < q.capacity

/-- Adds a record, or drops it if the queue does not accept it: see `accepts`. -/
def enqueue (q : Queue τ) (r : Record) : Queue τ :=
  if q.accepts then { q with waiting := q.waiting ++ [r] } else q

/-- The writer takes the next record that is `waiting`, unless it has one in hand. -/
def receive (q : Queue τ) : Queue τ :=
  match q.inHand, q.waiting with
  | none, r :: rest => { q with waiting := rest, inHand := some r }
  | _, _ => q

/-- The writer saves the record that it has `inHand`. If that fails, the record is lost. -/
def save (ops : Saving τ) (q : Queue τ) : Queue τ :=
  match q.inHand with
  | some r => { q with inHand := none, store := (ops.save r q.store).2 }
  | none => q

/-- The records that are still to be saved, earliest first: the one `inHand` and those `waiting`. -/
def unsaved (q : Queue τ) : List Record :=
  q.inHand.toList ++ q.waiting

/-- Saves `records` in their order, those too that come after one that cannot be saved. -/
def saveAll (ops : Saving τ) (records : List Record) (store : τ) : τ :=
  records.foldl (fun store r => (ops.save r store).2) store

/-- Lets the writer go on until nothing is left to save: it saves what is `unsaved`. -/
def drain (ops : Saving τ) (q : Queue τ) : Queue τ :=
  { q with waiting := [], inHand := none, store := saveAll ops q.unsaved q.store }

/-- Closes the queue, has everything saved by `drain`, and flushes the store, once. -/
def shutdown (ops : Saving τ) (q : Queue τ) : Queue τ :=
  let q := drain ops { q with isOpen := false }
  if q.isFlushed then q else { q with isFlushed := true, store := (ops.flush q.store).2 }

end Queue

end MailFilter

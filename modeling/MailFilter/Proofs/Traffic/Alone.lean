/-
One session of many, and the same session with no other.

From everything that is done to a filter, what concerns one session is picked out and done again to a
filter that has nothing else to do, with the clock and the identifiers that there were the first time.
As long as the memory of the checkers has no say in what they find, nobody can tell the difference: the
callbacks of the session are answered alike, hand over the same records and leave the same session.

* `shadows_concerning`, `shadows_aside`: what one deed does with the others and without them;
* `session_undisturbed`: what the session comes to is the same.
-/
import MailFilter.Proofs.Filter.Alone
import MailFilter.Proofs.Traffic.Settings

namespace MailFilter.Traffic

variable {σ : Type}

/-! ### One list within another -/

section

variable {α : Type} {p : α → Bool} {l : List α} {i : Nat} {a : α}

/-- An element that passes the test `p` keeps its place among those that pass it. -/
theorem getElem?_filter_place (hi : l[i]? = some a) (ha : p a = true) :
    (l.filter p)[(l.take i).countP p]? = some a := by
  induction l generalizing i with
  | nil => simp at hi
  | cons b rest ih =>
    cases i with
    | zero =>
      obtain rfl : b = a := Option.some.inj hi
      simp [ha]
    | succ i =>
      have hrest := ih hi
      cases hb : p b <;> simpa [hb] using hrest

theorem filter_set_place (hi : l[i]? = some a) (ha : p a = true) {b : α} (hb : p b = true) :
    (l.set i b).filter p = (l.filter p).set ((l.take i).countP p) b := by
  induction l generalizing i with
  | nil => simp at hi
  | cons c rest ih =>
    cases i with
    | zero =>
      obtain rfl : c = a := Option.some.inj hi
      simp [ha, hb]
    | succ i =>
      have hrest := ih hi
      cases hc : p c <;> simpa [hc] using hrest

theorem filter_set_other (hi : l[i]? = some a) (ha : p a = false) {b : α} (hb : p b = false) :
    (l.set i b).filter p = l.filter p := by
  induction l generalizing i with
  | nil => simp at hi
  | cons c rest ih =>
    cases i with
    | zero =>
      obtain rfl : c = a := Option.some.inj hi
      simp [ha, hb]
    | succ i =>
      have hrest := ih hi
      cases hc : p c <;> simpa [hc] using hrest

end

/-! ### Deeds done again -/

/-- A `Deed`, with the time and the next identifier when it is done. -/
structure Timed (σ : Type) where
  deed : Deed σ
  clock : Timestamp
  serial : Nat

/-- The filter with another time and another next identifier. -/
abbrev timed (T : Traffic σ) (clock : Timestamp) (serial : Nat) : Traffic σ :=
  { T with state := { T.state with clock, serial } }

/-- Does deeds at their times, as they are `Timed`. -/
def replay (f : Filter σ) (T : Traffic σ) (deeds : List (Timed σ)) : Traffic σ :=
  deeds.foldl (fun T x => (T.timed x.clock x.serial).perform f x.deed) T

/-! ### What concerns a session -/

/-- The place of the callback at `i` among those of the session `id`. -/
def place (T : Traffic σ) (id : Uuid) (i : Nat) : Nat :=
  (T.threads.take i).countP (·.session = some id)

/-- The deed concerns the session `id`. New settings concern every session. -/
def Deed.concerns (id : Uuid) (T : Traffic σ) : Deed σ → Bool
  | connect .. => Uuid.issued T.state.serial = id
  | call session _ => session = some id
  | go i => (T.threads[i]?.bind (·.session)) = some id
  | overrideConfig session _ => session = id
  | replaceConfig _ => true
  | prune _ | elapse _ | settle | stir _ => false

/-- The deed as it is without the other sessions, whose callbacks are not counted then: with the `place`
for the callback. -/
def Deed.alone (id : Uuid) (T : Traffic σ) : Deed σ → Deed σ
  | go i => go (T.place id i)
  | d => d

/-- The deeds that concern the session `id`, with the time and the next identifier of each. -/
def alone (f : Filter σ) (id : Uuid) (T : Traffic σ) : List (Deed σ) → List (Timed σ)
  | [] => []
  | d :: rest =>
    if d.concerns id T then
      ⟨d.alone id T, T.state.clock, T.state.serial⟩ :: alone f id (T.perform f d) rest
    else alone f id (T.perform f d) rest

/-- The deed removes the session `id` for its age. -/
def Deed.prunes (f : Filter σ) (id : Uuid) (st : FilterState σ) : Deed σ → Bool
  | .prune now => (st.sessions.removeExpired f.maxAgeSecs now).1.any (·.id = id)
  | _ => false

/-- The session `id` is removed for its age by some deed, as `Deed.prunes` tells. -/
def pruned (f : Filter σ) (id : Uuid) (T : Traffic σ) : List (Deed σ) → Bool
  | [] => false
  | d :: rest => d.prunes f id T.state || pruned f id (T.perform f d) rest

/-- The records that the callbacks of the session `id` have handed to the queue. -/
def handed (T : Traffic σ) (id : Uuid) : List Record :=
  (T.log.filter (·.task.session? = some id)).flatMap fun e => e.task.hands e.before

theorem handed_extend (T : Traffic σ) (e : Event σ) (threads : List (Thread σ)) (id : Uuid) :
    (T.extend e threads).handed id
      = T.handed id ++ if e.task.session? = some id then e.task.hands e.before else [] := by
  simp only [handed, List.filter_append, List.flatMap_append]
  by_cases he : e.task.session? = some id <;> simp [he]

/-! ### With the others and without them -/

/-- `T'` has of `T` one session, its callbacks, and the records that they have handed over. -/
structure Shadows (f : Filter σ) (id : Uuid) (T T' : Traffic σ) : Prop where
  config : T'.state.config = T.state.config
  sessions : T'.state.sessions = T.state.sessions.only id
  threads : T'.threads = T.threads.filter (·.session = some id)
  handed : T'.handed id = T.handed id
  unasked : ∀ t ∈ T.threads, ∀ c ∈ t.progress.unasked, c ∈ f.registry.enabled

section

variable {f : Filter σ} {id : Uuid} {T T' : Traffic σ}

theorem unasked_call (session : Option Uuid) (c : Callback) (st : FilterState σ) :
    (Filter.call session c st).unasked = [] := by
  unfold Filter.call
  split <;> rfl

theorem unasked_of_task (h : ∀ t ∈ T.threads, ∀ c ∈ t.progress.unasked, c ∈ f.registry.enabled)
    {i : Nat} {t : Thread σ} {task : Task σ} (hi : T.threads[i]? = some t)
    (ht : t.progress.task? = some task) : ∀ c ∈ task.unasked, c ∈ f.registry.enabled := by
  have hthread := h t (List.mem_of_getElem? hi)
  rwa [Progress.unasked, ht] at hthread

theorem Shadows.alone (h : T.Shadows f id T') :
    T.state.Alone id (T'.timed T.state.clock T.state.serial).state :=
  ⟨h.config, rfl, rfl, h.sessions⟩

theorem Shadows.getElem?_place (h : T.Shadows f id T') {i : Nat} {t : Thread σ}
    (hi : T.threads[i]? = some t) (hid : t.session = some id) :
    T'.threads[T.place id i]? = some t := by
  rw [h.threads]
  exact getElem?_filter_place hi (by simpa using hid)

/-- Something is done that concerns the states alone, and `T'` still `Shadows` what there is of the
session. -/
theorem Shadows.withState (h : T.Shadows f id T') {st st' : FilterState σ}
    (hconfig : st'.config = st.config) (hsessions : st'.sessions = st.sessions.only id) :
    ({ T with state := st } : Traffic σ).Shadows f id { T' with state := st' } :=
  ⟨hconfig, hsessions, h.threads, h.handed, h.unasked⟩

/-- Something is done that leaves the session `Unmoved`, and nothing is done in its shadow. -/
theorem Shadows.aside (h : T.Shadows f id T') {st : FilterState σ}
    (hst : T.state.Unmoved id st) : ({ T with state := st } : Traffic σ).Shadows f id T' :=
  h.withState (h.config.trans hst.config.symm) (h.sessions.trans hst.sessions.symm)

theorem Shadows.connect (h : T.Shadows f id T') (hid : Uuid.issued T.state.serial = id)
    (ip : Option Ip) (port : Option Nat) (reverseDns : Option String) :
    (T.move f (.connect ip port reverseDns)).Shadows f id
      ((T'.timed T.state.clock T.state.serial).move f (.connect ip port reverseDns)) := by
  refine h.withState h.config ?_
  show T'.state.sessions.insert (Session.new (Uuid.issued T.state.serial) T'.state.config ..) = _
  rw [h.sessions, h.config]
  exact (SessionTable.only_insert T.state.sessions hid).symm

/-- A callback of another session is taken, and nothing is done in the shadow. -/
theorem Shadows.callOther (h : T.Shadows f id T') {session : Option Uuid} (hne : session ≠ some id)
    (c : Callback) : (T.move f (.call session c)).Shadows f id T' where
  config := h.config
  sessions := h.sessions
  threads := by
    show T'.threads = (T.threads ++ [_]).filter _
    rw [List.filter_append, h.threads]
    simp [hne]
  handed := h.handed
  unasked := List.forall_mem_append.2 ⟨h.unasked, by simp [unasked_call]⟩

theorem Shadows.call (h : T.Shadows f id T') (c : Callback) :
    (T.move f (.call (some id) c)).Shadows f id
      ((T'.timed T.state.clock T.state.serial).move f (.call (some id) c)) where
  config := h.config
  sessions := h.sessions
  threads := by
    have hcall : Filter.call (some id) c (T'.timed T.state.clock T.state.serial).state
        = Filter.call (some id) c T.state := by
      unfold Filter.call
      rw [Option.bind_some, Option.bind_some, h.alone.find?]
    show T'.threads ++ [⟨some id, c, Filter.call (some id) c _⟩] = (T.threads ++ [_]).filter _
    rw [List.filter_append, h.threads, hcall]
    simp
  handed := h.handed
  unasked := List.forall_mem_append.2 ⟨h.unasked, by simp [unasked_call]⟩

/-- A callback of another session carries out a task, and nothing is done in the shadow. -/
theorem Shadows.goOther (h : T.Shadows f id T') (hT : T.Sound) {i : Nat} {t : Thread σ}
    {task : Task σ} (hi : T.threads[i]? = some t) (ht : t.progress.task? = some task)
    (hne : t.session ≠ some id) : (T.go f i).Shadows f id T' := by
  have hsession : task.session? ≠ some id := by
    rw [hT.session i t task hi ht]
    exact hne
  have hmoved := Filter.unmoved_step (f := f) hsession T.state
  rw [go_of_task hi ht]
  constructor
  · exact h.config.trans hmoved.config.symm
  · exact h.sessions.trans hmoved.sessions.symm
  · rw [filter_set_other hi (by simpa using hne) (by simpa using hne)]
    exact h.threads
  · rw [handed_extend, if_neg hsession, List.append_nil]
    exact h.handed
  · intro u hu
    rcases List.mem_or_eq_of_mem_set hu with hu | rfl
    · exact h.unasked u hu
    · exact Filter.unasked_step (unasked_of_task h.unasked hi ht) T.state

/-- A callback of the session carries out a task, and so it does in the shadow, at its `place` there. -/
theorem Shadows.carryOut (hf : ∀ c ∈ f.registry.enabled, c.Memoryless) (h : T.Shadows f id T')
    (hT : T.Sound) {i : Nat} {t : Thread σ} {task : Task σ} (hi : T.threads[i]? = some t)
    (ht : t.progress.task? = some task) (hid : t.session = some id) :
    (T.go f i).Shadows f id ((T'.timed T.state.clock T.state.serial).go f (T.place id i)) := by
  have hsession : task.session? = some id := (hT.session i t task hi ht).trans hid
  have hunasked := unasked_of_task h.unasked hi ht
  obtain ⟨hprogress, halone⟩ := Filter.alone_step hf h.alone hsession
    (fun c hc => hf c (hunasked c hc))
  have hi' : (T'.timed T.state.clock T.state.serial).threads[T.place id i]? = some t :=
    h.getElem?_place hi hid
  rw [go_of_task hi ht, go_of_task hi' ht]
  constructor
  · exact halone.config
  · exact halone.sessions
  · show T'.threads.set _ _ = _
    rw [filter_set_place hi (by simpa using hid) (by simpa using hid), h.threads, hprogress]
    rfl
  · rw [handed_extend, handed_extend, if_pos hsession, if_pos hsession,
      Filter.hands_alone h.alone hsession]
    exact congrArg (· ++ _) h.handed
  · intro u hu
    rcases List.mem_or_eq_of_mem_set hu with hu | rfl
    · exact h.unasked u hu
    · exact Filter.unasked_step hunasked T.state

/-- A callback of the session makes its move, and so it does in the shadow, at its `place` there. -/
theorem Shadows.go (hf : ∀ c ∈ f.registry.enabled, c.Memoryless) (h : T.Shadows f id T')
    (hT : T.Sound) {i : Nat} {t : Thread σ} (hi : T.threads[i]? = some t)
    (hid : t.session = some id) :
    (T.go f i).Shadows f id ((T'.timed T.state.clock T.state.serial).go f (T.place id i)) := by
  cases ht : t.progress.task? with
  | some task => exact h.carryOut hf hT hi ht hid
  | none =>
    have hi' : (T'.timed T.state.clock T.state.serial).threads[T.place id i]? = some t :=
      h.getElem?_place hi hid
    rw [go_of_over (by simp [hi, ht]), go_of_over (by simp [hi', ht])]
    exact ⟨h.config, h.sessions, h.threads, h.handed, h.unasked⟩

/-- What `concerns` a session does to it what it does without the others. -/
theorem shadows_concerning (hf : ∀ c ∈ f.registry.enabled, c.Memoryless) (h : T.Shadows f id T')
    (hT : T.Sound) {d : Deed σ} (hd : d.concerns id T = true) :
    (T.perform f d).Shadows f id
      ((T'.timed T.state.clock T.state.serial).perform f (d.alone id T)) := by
  cases d with
  | connect ip port reverseDns => exact h.connect (by simpa [Deed.concerns] using hd) ..
  | call session c =>
    obtain rfl : session = some id := by simpa [Deed.concerns] using hd
    exact h.call c
  | go i =>
    have hthread : T.threads[i]?.bind (·.session) = some id := by simpa [Deed.concerns] using hd
    obtain ⟨t, hi, hid⟩ := Option.bind_eq_some_iff.1 hthread
    exact h.go hf hT hi hid
  | overrideConfig i config =>
    obtain rfl : i = id := by simpa [Deed.concerns] using hd
    have halone := Filter.alone_overrideConfig h.alone config
    exact h.withState halone.config halone.sessions
  | replaceConfig config => exact h.withState rfl h.sessions
  | prune now | elapse nanos | settle | stir change => cases hd

/-- What does not concern a session leaves it alone, unless it `prunes` it. -/
theorem shadows_aside (h : T.Shadows f id T') (hT : T.Sound) {d : Deed σ}
    (hd : d.concerns id T = false) (hkept : d.prunes f id T.state = false) :
    (T.perform f d).Shadows f id T' := by
  cases d with
  | connect ip port reverseDns =>
    have hne : Uuid.issued T.state.serial ≠ id := by simpa [Deed.concerns] using hd
    exact h.aside ⟨rfl, SessionTable.only_insert_other _ hne⟩
  | call session c => exact h.callOther (by simpa [Deed.concerns] using hd) c
  | go i =>
    show (T.go f i).Shadows f id T'
    cases hi : T.threads[i]? with
    | none =>
      rw [go_of_over (by simp [hi])]
      exact h
    | some t =>
      cases ht : t.progress.task? with
      | some task => exact h.goOther hT hi ht (by simpa [Deed.concerns, hi] using hd)
      | none =>
        rw [go_of_over (by simp [hi, ht])]
        exact h
  | prune now =>
    have hothers : ∀ s ∈ (T.state.sessions.removeExpired f.maxAgeSecs now).1, s.id ≠ id := by
      simpa [Deed.prunes] using hkept
    exact h.aside (Filter.unmoved_prune hothers)
  | overrideConfig i config =>
    have hne : i ≠ id := by simpa [Deed.concerns] using hd
    exact h.aside (Filter.unmoved_overrideConfig hne config T.state)
  | replaceConfig config => cases hd
  | elapse nanos | settle | stir change => exact h.aside ⟨rfl, rfl⟩

theorem shadows_start (f : Filter σ) (id : Uuid) (st : FilterState σ) :
    (start st).Shadows f id (start st) :=
  ⟨rfl, rfl, rfl, rfl, by simp [start]⟩

theorem shadows_run (hf : ∀ c ∈ f.registry.enabled, c.Memoryless) (h : T.Shadows f id T')
    (hT : T.Sound) {deeds : List (Deed σ)} (hkept : T.pruned f id deeds = false) :
    (T.performAll f deeds).Shadows f id (T'.replay f (T.alone f id deeds)) := by
  induction deeds generalizing T T' with
  | nil => exact h
  | cons d rest ih =>
    obtain ⟨hd, hrest⟩ := (Bool.or_eq_false_iff ..).1 hkept
    have hsound := sound_of_moved hT (moved_move f hT (d.move f T.state))
    unfold alone
    split
    · next hconcerns => exact ih (shadows_concerning hf h hT hconcerns) hsound hrest
    · next hother => exact ih (shadows_aside h hT (by simpa using hother) hd) hsound hrest

end

/-! ### Sessions apart -/

/-- **Sessions do not disturb one another.** Whatever is done to a filter, task by task and in any order,
a session that is not `pruned` sees what it would see if there were no other: its callbacks go the same
way and are answered alike, they hand over the same records, and they leave the same session. The time
and the identifiers are those that there were with the others, and nothing else is taken over; what
checkers find must not depend on what they remember, which is of all sessions. -/
theorem session_undisturbed (f : Filter σ) (hf : ∀ c ∈ f.registry.enabled, c.Memoryless)
    (st : FilterState σ) (deeds : List (Deed σ)) (id : Uuid) {T T' : Traffic σ}
    (hT : T = (start st).performAll f deeds)
    (hT' : T' = (start st).replay f ((start st).alone f id deeds))
    (hkept : (start st).pruned f id deeds = false) :
    T'.threads = T.threads.filter (·.session = some id) ∧ T'.handed id = T.handed id ∧
      T'.state.sessions = T.state.sessions.only id := by
  have h : T.Shadows f id T' := by
    rw [hT, hT']
    exact shadows_run hf (shadows_start f id st) (sound_start st) hkept
  exact ⟨h.threads, h.handed, h.sessions⟩

/-- A filter with one checker, which counts how often it is asked, by whomever. -/
def tallying : Filter Nat where
  registry :=
    ⟨[{ name := "tally"
        check := fun _ _ n => ({ outcome := .abstained }, n + 1)
        gate := fun _ _ n => ({ outcome := .verdict .permit }, n + 1) }]⟩
  maxAgeSecs := 900

/-- Two clients by turns: one names a sender and a recipient, and the other names no sender where it
should, and hangs up. -/
def byTurns : List (Deed Nat) :=
  [.connect none none none, .connect none none none,
    .call (some (Uuid.issued 0)) (.envFrom ["<a@example.org>"] {}),
    .call (some (Uuid.issued 1)) (.envFrom [] {}), .go 1, .go 0, .go 1, .elapse 1000,
    .call (some (Uuid.issued 1)) .close,
    .call (some (Uuid.issued 0)) (.envRcpt ["<b@example.com>"]), .go 3, .go 2, .go 3,
    .prune { nanos := 0 }, .go 3]

/-- The first of the two is answered as it would be if the other had not called. -/
theorem session_undisturbed_by_turns :
    let st : FilterState Nat :=
      { clock := { nanos := 0 }, memory := 0, queue := Queue.new 1 .nowhere }
    let T := (start st).performAll tallying byTurns
    let T' := (start st).replay tallying ((start st).alone tallying (Uuid.issued 0) byTurns)
    (∀ c ∈ tallying.registry.enabled, c.Memoryless) ∧
      (start st).pruned tallying (Uuid.issued 0) byTurns = false ∧ T.threads.length = 4 ∧
      T'.threads = T.threads.filter (·.session = some (Uuid.issued 0)) ∧
      T'.handed (Uuid.issued 0) = T.handed (Uuid.issued 0) ∧
      T'.state.sessions = T.state.sessions.only (Uuid.issued 0) := by
  intro st T T'
  have hmemoryless : ∀ c ∈ tallying.registry.enabled, c.Memoryless := by
    intro c hc
    obtain rfl := List.mem_singleton.1 hc
    exact ⟨fun _ _ _ _ => rfl, fun _ _ _ _ => rfl⟩
  have hkept : (start st).pruned tallying (Uuid.issued 0) byTurns = false := by decide +kernel
  have hT : T = (start st).performAll tallying byTurns := rfl
  have hT' : T' = (start st).replay tallying
      ((start st).alone tallying (Uuid.issued 0) byTurns) := rfl
  obtain ⟨hthreads, hhanded, hsessions⟩ :=
    session_undisturbed tallying hmemoryless st byTurns (Uuid.issued 0) hT hT' hkept
  exact ⟨hmemoryless, hkept, by decide +kernel, hthreads, hhanded, hsessions⟩

end MailFilter.Traffic

/-
The grammar of a mail connection.

`Position.next` is a table of single steps. Read as a language it takes the words of
`Stage.connection`: rounds, each of them a greeting, an abort, or a transaction that is ended or
abandoned, and after them perhaps a transaction that is still open. What has been taken of an open
transaction is told by the position: `Position.opening`.

* `mem_of_reach`: what has been taken where a position is reached;
* `reach_of_mem`: every word of the grammar leads to a position;
* `orderly_of_reach`: the order of the stages in such words;
* `taken_iff_mem_connection`: the table and the grammar take the same words.
-/
import Mathlib.Computability.Language
import MailFilter.Session.Basic

namespace MailFilter

open scoped Computability

/-! ### The grammar -/

namespace Stage

/-- The stages of a message until its recipients are named: one `envFrom`, and then `envRcpt` once or
more. -/
def addressed : Language Stage := {[envFrom]} * ({[envRcpt]} * {[envRcpt]}∗)

/-- The stages of a message until its end: a sender, recipients, headers and perhaps a body. -/
def transaction : Language Stage := addressed * {[header]}∗ * (1 + {[eoh]} * {[body]}∗)

/-- The beginnings of a `transaction`, with its sender at least. -/
def beginning : Language Stage :=
  {w | w.head? = some envFrom ∧ ∃ rest, w ++ rest ∈ transaction}

/-- A greeting, an abort, or a `transaction` that is ended or abandoned. -/
def round : Language Stage := {[helo]} + {[abort]} + transaction * {[eom]} + beginning * {[abort]}

/-- The stages of a connection: `round` after `round`, and perhaps the `beginning` of a transaction. -/
def connection : Language Stage := round∗ * (1 + beginning)

/-- How stages follow one another on a connection: what `taken_iff_mem_connection` has to say of the
words besides that they are in the grammar. -/
structure Orderly (w : List Stage) : Prop where
  noConnect : connect ∉ w
  noClose : close ∉ w
  /-- Since the sender of a message there are recipients at its end, and nothing has been abandoned. -/
  eom : ∀ before after, w = before ++ Stage.eom :: after → ∃ earlier message,
    before = earlier ++ envFrom :: message ∧ envRcpt ∈ message ∧ envFrom ∉ message ∧
      abort ∉ message
  /-- After the end of the headers there is a header only if another message has begun. -/
  header : ∀ before between after, w = before ++ eoh :: (between ++ Stage.header :: after) →
    envFrom ∈ between
  /-- A part of a body comes after the end of the headers of the same message. -/
  body : ∀ before after, w = before ++ Stage.body :: after → ∃ earlier message parts,
    before = earlier ++ envFrom :: (message ++ eoh :: parts) ∧
      (∀ stage ∈ message, stage = envRcpt ∨ stage = Stage.header) ∧
      ∀ stage ∈ parts, stage = Stage.body

end Stage

/-! ### Where stages lead -/

namespace Position

/-- Where stages lead, if `next` lets each of them happen where it comes. -/
def reach (p : Position) (w : List Stage) : Option Position :=
  w.foldlM next p

theorem reach_nil (p : Position) : p.reach [] = some p := rfl

theorem reach_cons (p : Position) (stage : Stage) (w : List Stage) :
    p.reach (stage :: w) = (p.next stage).bind fun q => q.reach w := rfl

theorem reach_append (p : Position) (u v : List Stage) :
    p.reach (u ++ v) = (p.reach u).bind fun q => q.reach v :=
  List.foldlM_append

theorem reach_singleton (p : Position) (stage : Stage) : p.reach [stage] = p.next stage := by
  rw [reach_cons]
  cases p.next stage <;> rfl

/-- No stage of `run` is refused just if the stages lead somewhere, by `reach`. -/
theorem run_isSome_iff (p : Position) (w : List Stage) :
    (∀ step ∈ p.run w, step.isSome = true) ↔ (p.reach w).isSome = true := by
  induction w generalizing p with
  | nil => simp [run, reach_nil]
  | cons stage rest ih =>
    rw [run, reach_cons]
    cases p.next stage with
    | none => simp
    | some q => simp [ih]

theorem next_ne_failed (p : Position) (stage : Stage) : p.next stage ≠ some failed := by
  cases p <;> cases stage <;> rintro ⟨⟩

/-- The position `p` is between two messages. -/
def IsIdle (p : Position) : Prop := p = connected ∨ p = greeted

theorem isIdle_of_abort {p : Position} (h : p ≠ failed) :
    ∃ q, p.next .abort = some q ∧ q.IsIdle := by
  cases p with
  | failed => exact absurd rfl h
  | connected => exact ⟨connected, rfl, .inl rfl⟩
  | greeted | mailFrom | recipients | headers | body => exact ⟨greeted, rfl, .inr rfl⟩

theorem ne_failed_of_reach {p q : Position} {w : List Stage} (hp : p ≠ failed)
    (h : p.reach w = some q) : q ≠ failed := by
  induction w generalizing p with
  | nil =>
    rw [reach_nil, Option.some.injEq] at h
    exact h ▸ hp
  | cons stage rest ih =>
    rw [reach_cons, Option.bind_eq_some_iff] at h
    obtain ⟨r, hr, hq⟩ := h
    exact ih (fun hfailed => next_ne_failed p stage (hfailed ▸ hr)) hq

end Position

/-! ### Words of the grammar lead somewhere -/

theorem mem_kstar_letter {α : Type} {a : α} {w : List α} :
    w ∈ ({[a]} : Language α)∗ ↔ ∀ b ∈ w, b = a := by
  constructor
  · intro h b hb
    obtain ⟨parts, rfl, hparts⟩ := Language.mem_kstar.1 h
    obtain ⟨part, hpart, hb⟩ := List.mem_flatten.1 hb
    obtain rfl : part = [a] := hparts part hpart
    exact List.mem_singleton.1 hb
  · intro h
    induction w with
    | nil => exact Language.nil_mem_kstar _
    | cons b rest ih =>
      obtain ⟨parts, hflat, hparts⟩ := Language.mem_kstar.1
        (ih fun c hc => h c (List.mem_cons_of_mem _ hc))
      refine Language.mem_kstar.2 ⟨[b] :: parts, by rw [hflat]; rfl, fun part hpart => ?_⟩
      rcases List.mem_cons.1 hpart with rfl | hpart
      · exact congrArg (fun c => [c]) (h b List.mem_cons_self)
      · exact hparts part hpart

theorem append_mem_kstar {α : Type} {L : Language α} {u v : List α} (hu : u ∈ L∗) (hv : v ∈ L) :
    u ++ v ∈ L∗ := by
  obtain ⟨parts, rfl, hparts⟩ := Language.mem_kstar.1 hu
  refine Language.mem_kstar.2 ⟨parts ++ [v], by simp, fun part hpart => ?_⟩
  rcases List.mem_append.1 hpart with hpart | hpart
  · exact hparts part hpart
  · exact List.mem_singleton.1 hpart ▸ hv

namespace Stage

variable {w : List Stage}

theorem mem_addressed :
    w ∈ addressed ↔ ∃ more, (∀ s ∈ more, s = envRcpt) ∧ w = envFrom :: envRcpt :: more := by
  simp only [addressed, Language.mem_mul, mem_kstar_letter]
  constructor
  · rintro ⟨-, rfl, -, ⟨-, rfl, more, hmore, rfl⟩, rfl⟩
    exact ⟨more, hmore, rfl⟩
  · rintro ⟨more, hmore, rfl⟩
    exact ⟨_, rfl, _, ⟨_, rfl, more, hmore, rfl⟩, rfl⟩

theorem mem_transaction :
    w ∈ transaction ↔ ∃ first ∈ addressed, ∃ fields, (∀ s ∈ fields, s = header) ∧
      (w = first ++ fields ∨
        ∃ parts, (∀ s ∈ parts, s = body) ∧ w = first ++ fields ++ eoh :: parts) := by
  simp only [transaction, Language.mem_mul, Language.mem_add, Language.mem_one, mem_kstar_letter]
  constructor
  · rintro ⟨-, ⟨first, hfirst, fields, hfields, rfl⟩, -, rfl | ⟨-, rfl, parts, hparts, rfl⟩, rfl⟩
    · exact ⟨first, hfirst, fields, hfields, .inl (List.append_nil _)⟩
    · exact ⟨first, hfirst, fields, hfields, .inr ⟨parts, hparts, rfl⟩⟩
  · rintro ⟨first, hfirst, fields, hfields, rfl | ⟨parts, hparts, rfl⟩⟩
    · exact ⟨_, ⟨first, hfirst, fields, hfields, rfl⟩, [], .inl rfl, List.append_nil _⟩
    · exact ⟨_, ⟨first, hfirst, fields, hfields, rfl⟩, _, .inr ⟨_, rfl, parts, hparts, rfl⟩, rfl⟩

theorem mem_round :
    w ∈ round ↔ w = [helo] ∨ w = [abort] ∨ (∃ v ∈ transaction, w = v ++ [eom]) ∨
      ∃ v ∈ beginning, w = v ++ [abort] := by
  simp only [round, Language.mem_add, Language.mem_mul]
  constructor
  · rintro (((rfl | rfl) | ⟨v, hv, -, rfl, rfl⟩) | ⟨v, hv, -, rfl, rfl⟩)
    · exact .inl rfl
    · exact .inr (.inl rfl)
    · exact .inr (.inr (.inl ⟨v, hv, rfl⟩))
    · exact .inr (.inr (.inr ⟨v, hv, rfl⟩))
  · rintro (rfl | rfl | ⟨v, hv, rfl⟩ | ⟨v, hv, rfl⟩)
    · exact .inl (.inl (.inl rfl))
    · exact .inl (.inl (.inr rfl))
    · exact .inl (.inr ⟨v, hv, _, rfl, rfl⟩)
    · exact .inr ⟨v, hv, _, rfl, rfl⟩

end Stage

namespace Position

/-- A stage with which `next` leads back to where it happens may be repeated. -/
theorem reach_repeated {p : Position} {stage : Stage} (hp : p.next stage = some p)
    {w : List Stage} (h : ∀ s ∈ w, s = stage) : p.reach w = some p := by
  induction w with
  | nil => exact reach_nil p
  | cons s rest ih =>
    rw [h s List.mem_cons_self, reach_cons, hp]
    exact ih fun t ht => h t (List.mem_cons_of_mem _ ht)

theorem reach_of_mem_addressed {p : Position} (hp : p.IsIdle) {w : List Stage}
    (h : w ∈ Stage.addressed) : p.reach w = some recipients := by
  obtain ⟨more, hmore, rfl⟩ := Stage.mem_addressed.1 h
  have hfrom : p.next .envFrom = some mailFrom := by
    rcases hp with rfl | rfl <;> rfl
  rw [reach_cons, hfrom]
  exact reach_repeated rfl hmore

/-- After `header` lines a message can end, and so can its headers. -/
theorem reach_headers {fields : List Stage} (h : ∀ s ∈ fields, s = .header) :
    ∃ q, recipients.reach fields = some q ∧ q.next .eom = some greeted ∧
      q.next .eoh = some body := by
  cases fields with
  | nil => exact ⟨recipients, rfl, rfl, rfl⟩
  | cons field more =>
    obtain ⟨rfl, hmore⟩ := List.forall_mem_cons.1 h
    exact ⟨headers, reach_repeated rfl hmore, rfl, rfl⟩

theorem reach_of_mem_transaction {p : Position} (hp : p.IsIdle) {w : List Stage}
    (h : w ∈ Stage.transaction) : ∃ q, p.reach w = some q ∧ q.next .eom = some greeted := by
  obtain ⟨first, hfirst, fields, hfields, hw⟩ := Stage.mem_transaction.1 h
  obtain ⟨q, hq, heom, heoh⟩ := reach_headers hfields
  have hboth : p.reach (first ++ fields) = some q := by
    rw [reach_append, reach_of_mem_addressed hp hfirst, Option.bind_some, hq]
  rcases hw with rfl | ⟨parts, hparts, rfl⟩
  · exact ⟨q, hboth, heom⟩
  · refine ⟨body, ?_, rfl⟩
    rw [reach_append, hboth, Option.bind_some, reach_cons, heoh]
    exact reach_repeated rfl hparts

theorem reach_of_mem_beginning {p : Position} (hp : p.IsIdle) {w : List Stage}
    (h : w ∈ Stage.beginning) : ∃ q, p.reach w = some q ∧ q ≠ failed := by
  obtain ⟨-, rest, hrest⟩ := h
  obtain ⟨q, hq, -⟩ := reach_of_mem_transaction hp hrest
  rw [reach_append, Option.bind_eq_some_iff] at hq
  obtain ⟨r, hr, -⟩ := hq
  refine ⟨r, hr, ne_failed_of_reach ?_ hr⟩
  rcases hp with rfl | rfl <;> rintro ⟨⟩

theorem reach_of_mem_round {p : Position} (hp : p.IsIdle) {w : List Stage} (h : w ∈ Stage.round) :
    ∃ q, p.reach w = some q ∧ q.IsIdle := by
  rcases Stage.mem_round.1 h with rfl | rfl | ⟨v, hv, rfl⟩ | ⟨v, hv, rfl⟩
  · rcases hp with rfl | rfl <;> exact ⟨greeted, rfl, .inr rfl⟩
  · rcases hp with rfl | rfl
    · exact ⟨connected, rfl, .inl rfl⟩
    · exact ⟨greeted, rfl, .inr rfl⟩
  · obtain ⟨q, hq, heom⟩ := reach_of_mem_transaction hp hv
    refine ⟨greeted, ?_, .inr rfl⟩
    rw [reach_append, hq, Option.bind_some, reach_singleton, heom]
  · obtain ⟨q, hq, hne⟩ := reach_of_mem_beginning hp hv
    obtain ⟨r, hr, hidle⟩ := isIdle_of_abort hne
    refine ⟨r, ?_, hidle⟩
    rw [reach_append, hq, Option.bind_some, reach_singleton, hr]

theorem reach_of_mem_rounds {p : Position} (hp : p.IsIdle) {w : List Stage}
    (h : w ∈ Stage.round∗) : ∃ q, p.reach w = some q ∧ q.IsIdle := by
  obtain ⟨parts, rfl, hparts⟩ := Language.mem_kstar.1 h
  clear h
  -- every round may start where the one before has led
  induction parts generalizing p with
  | nil => exact ⟨p, rfl, hp⟩
  | cons part rest ih =>
    rw [List.forall_mem_cons] at hparts
    obtain ⟨q, hq, hidle⟩ := reach_of_mem_round hp hparts.1
    obtain ⟨r, hr, hidle'⟩ := ih hidle hparts.2
    refine ⟨r, ?_, hidle'⟩
    rw [List.flatten_cons, reach_append, hq]
    exact hr

theorem reach_of_mem {w : List Stage} (h : w ∈ Stage.connection) :
    (connected.reach w).isSome = true := by
  obtain ⟨rounds, hrounds, last, hlast, rfl⟩ := Language.mem_mul.1 h
  obtain ⟨p, hp, hidle⟩ := reach_of_mem_rounds (.inl rfl) hrounds
  rw [reach_append, hp, Option.bind_some]
  rcases hlast with rfl | hlast
  · rfl
  · obtain ⟨q, hq, -⟩ := reach_of_mem_beginning hidle hlast
    rw [hq]
    rfl

/-! ### What has been taken -/

/-- What has been taken of the message that is open at a position, as a language: `mem_of_reach` says
that it has. -/
def opening : Position → Language Stage
  | connected | greeted => 1
  | mailFrom => {[.envFrom]}
  | recipients => Stage.addressed
  | headers => {w | ∃ first ∈ Stage.addressed, ∃ fields, fields ≠ [] ∧
      (∀ s ∈ fields, s = .header) ∧ w = first ++ fields}
  | body => {w | ∃ first ∈ Stage.addressed, ∃ fields, (∀ s ∈ fields, s = .header) ∧
      ∃ parts, (∀ s ∈ parts, s = .body) ∧ w = first ++ fields ++ .eoh :: parts}
  | failed => 0

theorem transaction_of_opening {p : Position} (hp : p.next .eom = some greeted) {v : List Stage}
    (h : v ∈ p.opening) : v ∈ Stage.transaction := by
  rw [Stage.mem_transaction]
  cases p with
  | recipients => exact ⟨v, h, [], by simp, .inl (List.append_nil v).symm⟩
  | headers =>
    obtain ⟨first, hfirst, fields, -, hfields, hv⟩ := h
    exact ⟨first, hfirst, fields, hfields, .inl hv⟩
  | body =>
    obtain ⟨first, hfirst, fields, hfields, parts, hparts, hv⟩ := h
    exact ⟨first, hfirst, fields, hfields, .inr ⟨parts, hparts, hv⟩⟩
  | connected | greeted | mailFrom | failed => cases hp

theorem beginning_of_opening {p : Position} (hp : p.inMessage = true) {v : List Stage}
    (h : v ∈ p.opening) : v ∈ Stage.beginning := by
  have hwhole : v ∈ Stage.transaction → v ∈ Stage.beginning := by
    intro hv
    refine ⟨?_, [], by rwa [List.append_nil]⟩
    obtain ⟨first, hfirst, fields, -, hw⟩ := Stage.mem_transaction.1 hv
    obtain ⟨more, -, rfl⟩ := Stage.mem_addressed.1 hfirst
    rcases hw with rfl | ⟨parts, -, rfl⟩ <;> rfl
  cases p with
  | mailFrom =>
    obtain rfl : v = [.envFrom] := h
    -- a sender alone is no transaction; a recipient makes it one
    have haddressed : [Stage.envFrom, Stage.envRcpt] ∈ recipients.opening :=
      Stage.mem_addressed.2 ⟨[], by simp, rfl⟩
    exact ⟨rfl, [.envRcpt], transaction_of_opening rfl haddressed⟩
  | recipients | headers | body => exact hwhole (transaction_of_opening rfl h)
  | connected | greeted | failed => cases hp

/-- Between messages a stage completes a `round`, or it begins a message, the `opening` of the next
position. -/
theorem opening_next_idle {p q : Position} {stage : Stage} (hnext : p.next stage = some q)
    (hidle : p.IsIdle) :
    [stage] ∈ q.opening ∨ (q.opening = 1 ∧ [stage] ∈ Stage.round) := by
  cases stage with
  | helo =>
    refine .inr ⟨?_, Stage.mem_round.2 (.inl rfl)⟩
    rcases hidle with rfl | rfl <;> cases hnext <;> rfl
  | abort =>
    refine .inr ⟨?_, Stage.mem_round.2 (.inr (.inl rfl))⟩
    rcases hidle with rfl | rfl <;> cases hnext <;> rfl
  | envFrom => rcases hidle with rfl | rfl <;> cases hnext <;> exact .inl rfl
  | connect | envRcpt | header | eoh | body | eom | close =>
    rcases hidle with rfl | rfl <;> cases hnext

/-- Within a message a stage adds to the `opening`, or it completes a `round`. -/
theorem opening_next_open {p q : Position} {stage : Stage} (hnext : p.next stage = some q)
    (hin : p.inMessage = true) {v : List Stage} (h : v ∈ p.opening) :
    v ++ [stage] ∈ q.opening ∨ (q.opening = 1 ∧ v ++ [stage] ∈ Stage.round) := by
  -- one more of the same at the end
  have hconcat : ∀ {fields : List Stage} {s : Stage}, (∀ t ∈ fields, t = s) →
      ∀ t ∈ fields ++ [s], t = s := by
    intro fields s hfields t ht
    rcases List.mem_append.1 ht with ht | ht
    · exact hfields t ht
    · exact List.mem_singleton.1 ht
  cases stage with
  | abort =>
    refine .inr ⟨?_, Stage.mem_round.2 (.inr (.inr (.inr ⟨v, beginning_of_opening hin h, rfl⟩)))⟩
    cases p <;> cases hnext <;> rfl
  | eom =>
    obtain rfl : q = greeted := by
      cases p <;> cases hnext <;> rfl
    exact .inr ⟨rfl, Stage.mem_round.2 (.inr (.inr (.inl ⟨v, transaction_of_opening hnext h, rfl⟩)))⟩
  | envRcpt =>
    refine .inl ?_
    cases p <;> cases hnext
    · obtain rfl : v = [.envFrom] := h
      exact Stage.mem_addressed.2 ⟨[], by simp, rfl⟩
    · obtain ⟨more, hmore, rfl⟩ := Stage.mem_addressed.1 h
      exact Stage.mem_addressed.2 ⟨more ++ [.envRcpt], hconcat hmore, rfl⟩
  | header =>
    refine .inl ?_
    cases p <;> cases hnext
    · exact ⟨v, h, [.header], by simp, by simp, rfl⟩
    · obtain ⟨first, hfirst, fields, -, hfields, rfl⟩ := h
      exact ⟨first, hfirst, fields ++ [.header], by simp, hconcat hfields, List.append_assoc ..⟩
  | eoh =>
    refine .inl ?_
    cases p <;> cases hnext
    · exact ⟨v, h, [], by simp, [], by simp, by simp⟩
    · obtain ⟨first, hfirst, fields, -, hfields, rfl⟩ := h
      exact ⟨first, hfirst, fields, hfields, [], by simp, rfl⟩
  | body =>
    refine .inl ?_
    cases p <;> cases hnext
    obtain ⟨first, hfirst, fields, hfields, parts, hparts, rfl⟩ := h
    exact ⟨first, hfirst, fields, hfields, parts ++ [.body], hconcat hparts, by simp⟩
  | connect | helo | envFrom | close =>
    cases p with
    | mailFrom | recipients | headers | body => cases hnext
    | connected | greeted | failed => cases hin

theorem opening_next {p q : Position} {stage : Stage} (hnext : p.next stage = some q)
    {v : List Stage} (h : v ∈ p.opening) :
    v ++ [stage] ∈ q.opening ∨ (q.opening = 1 ∧ v ++ [stage] ∈ Stage.round) := by
  cases p with
  | connected =>
    obtain rfl : v = [] := h
    exact opening_next_idle hnext (.inl rfl)
  | greeted =>
    obtain rfl : v = [] := h
    exact opening_next_idle hnext (.inr rfl)
  | mailFrom | recipients | headers | body => exact opening_next_open hnext rfl h
  | failed => cases hnext

/-- What has been taken where `reach` arrives at a position: rounds, and what there is of an open
message. -/
theorem mem_of_reach {p : Position} {w : List Stage} (h : connected.reach w = some p) :
    w ∈ Stage.round∗ * p.opening := by
  induction w using List.reverseRecOn generalizing p with
  | nil =>
    rw [reach_nil, Option.some.injEq] at h
    subst h
    exact Language.append_mem_mul (Language.nil_mem_kstar _) rfl
  | append_singleton w stage ih =>
    rw [reach_append, Option.bind_eq_some_iff] at h
    obtain ⟨q, hq, hp⟩ := h
    -- the last stage is taken where the others have led
    rw [reach_singleton] at hp
    obtain ⟨rounds, hrounds, v, hv, rfl⟩ := Language.mem_mul.1 (ih hq)
    rw [List.append_assoc]
    rcases opening_next hp hv with hv | ⟨hone, hv⟩
    · exact Language.append_mem_mul hrounds hv
    · rw [hone, mul_one]
      exact append_mem_kstar hrounds hv

theorem mem_connection_of_reach {w : List Stage} (h : (connected.reach w).isSome = true) :
    w ∈ Stage.connection := by
  obtain ⟨p, hp⟩ := Option.isSome_iff_exists.1 h
  obtain ⟨rounds, hrounds, v, hv, rfl⟩ := Language.mem_mul.1 (mem_of_reach hp)
  refine Language.append_mem_mul hrounds ?_
  by_cases hin : p.inMessage = true
  · exact .inr (beginning_of_opening hin hv)
  · refine .inl ?_
    cases p with
    | connected | greeted => exact hv
    | failed => exact absurd hv (Language.notMem_zero v)
    | mailFrom | recipients | headers | body => exact absurd rfl hin

/-! ### The order of the stages -/

/-- Where `stage` has been taken, those before it have led to a position that it leads on from. -/
theorem reach_of_split {p : Position} {before after : List Stage} {stage : Stage}
    (h : (p.reach (before ++ stage :: after)).isSome = true) :
    ∃ q, p.reach before = some q ∧ (q.next stage).isSome = true := by
  rw [reach_append] at h
  cases hq : p.reach before with
  | none =>
    rw [hq] at h
    cases h
  | some q =>
    refine ⟨q, rfl, ?_⟩
    rw [hq, Option.bind_some, reach_cons] at h
    cases hn : q.next stage with
    | none =>
      rw [hn] at h
      cases h
    | some r => rfl

/-- Within a message, what has been taken ends with the `opening`, which begins with its sender. -/
theorem split_of_reach {q : Position} {w : List Stage} (h : connected.reach w = some q) :
    ∃ earlier v, w = earlier ++ v ∧ v ∈ q.opening := by
  obtain ⟨earlier, -, v, hv, rfl⟩ := Language.mem_mul.1 (mem_of_reach h)
  exact ⟨earlier, v, rfl, hv⟩

/-- Until the end of the headers, a message has `envRcpt` and then `header` after its sender. -/
theorem message_of_addressed {first fields : List Stage} (hfirst : first ∈ Stage.addressed)
    (hfields : ∀ s ∈ fields, s = .header) :
    ∃ message, first ++ fields = .envFrom :: message ∧ Stage.envRcpt ∈ message ∧
      ∀ s ∈ message, s = .envRcpt ∨ s = .header := by
  obtain ⟨more, hmore, rfl⟩ := Stage.mem_addressed.1 hfirst
  refine ⟨.envRcpt :: more ++ fields, rfl, List.mem_cons_self, fun s hs => ?_⟩
  rcases List.mem_append.1 hs with hs | hs
  · rcases List.mem_cons.1 hs with rfl | hs
    · exact .inl rfl
    · exact .inl (hmore s hs)
  · exact .inr (hfields s hs)

/-- Where a header can be taken, a message has had nothing but `envRcpt` and `header`
after its sender. -/
theorem message_of_opening_header {q p : Position} (hq : q.next .header = some p) {v : List Stage}
    (hv : v ∈ q.opening) :
    ∃ message, v = .envFrom :: message ∧ ∀ s ∈ message, s = .envRcpt ∨ s = .header := by
  cases q with
  | recipients =>
    have hfields : ∀ s ∈ ([] : List Stage), s = .header := by simp
    obtain ⟨message, hmessage, -, honly⟩ := message_of_addressed hv hfields
    exact ⟨message, by rwa [List.append_nil] at hmessage, honly⟩
  | headers =>
    obtain ⟨first, hfirst, fields, -, hfields, rfl⟩ := hv
    obtain ⟨message, hmessage, -, honly⟩ := message_of_addressed hfirst hfields
    exact ⟨message, hmessage, honly⟩
  | connected | greeted | mailFrom | body | failed => cases hq

/-- Where `eom` can be taken the message has recipients, and nothing has been abandoned
since its sender. -/
theorem message_of_opening {q : Position} (hq : q.next .eom = some greeted) {v : List Stage}
    (hv : v ∈ q.opening) :
    ∃ message, v = .envFrom :: message ∧ Stage.envRcpt ∈ message ∧ Stage.envFrom ∉ message ∧
      Stage.abort ∉ message := by
  obtain ⟨first, hfirst, fields, hfields, hw⟩ :=
    Stage.mem_transaction.1 (transaction_of_opening hq hv)
  obtain ⟨message, hmessage, hrcpt, honly⟩ := message_of_addressed hfirst hfields
  have hother : ∀ {s : Stage}, s ≠ .envRcpt → s ≠ .header → s ∉ message := by
    intro s hne hne' hs
    exact (honly s hs).elim hne hne'
  rcases hw with rfl | ⟨parts, hparts, rfl⟩
  · exact ⟨message, hmessage, hrcpt, hother (by simp) (by simp), hother (by simp) (by simp)⟩
  · have hparts' : ∀ {s : Stage}, s ≠ .body → s ∉ parts := fun hne hs => hne (hparts _ hs)
    refine ⟨message ++ .eoh :: parts, by rw [hmessage]; rfl, List.mem_append_left _ hrcpt, ?_, ?_⟩
    · simp [hother, hparts']
    · simp [hother, hparts']

theorem orderly_of_reach {w : List Stage} (h : (connected.reach w).isSome = true) :
    Stage.Orderly w := by
  -- a stage that leads on from nowhere is in no such word
  have hnowhere : ∀ stage, (∀ q : Position, q.next stage = none) → stage ∉ w := by
    intro stage hnone hmem
    obtain ⟨before, after, rfl⟩ := List.append_of_mem hmem
    obtain ⟨q, -, hq⟩ := reach_of_split h
    rw [hnone] at hq
    cases hq
  constructor
  case noConnect => exact hnowhere .connect fun q => by cases q <;> rfl
  case noClose => exact hnowhere .close fun q => by cases q <;> rfl
  case eom =>
    rintro before after rfl
    obtain ⟨q, hq, heom⟩ := reach_of_split h
    have hend : q.next .eom = some greeted := by
      cases q <;> first | rfl | cases heom
    obtain ⟨earlier, v, rfl, hv⟩ := split_of_reach hq
    obtain ⟨message, rfl, hmessage⟩ := message_of_opening hend hv
    exact ⟨earlier, message, rfl, hmessage⟩
  case header =>
    rintro before between after rfl
    rw [← List.cons_append, ← List.append_assoc] at h
    obtain ⟨q, hq, hheader⟩ := reach_of_split h
    obtain ⟨earlier, v, hsplit, hv⟩ := split_of_reach hq
    obtain ⟨p, hp⟩ := Option.isSome_iff_exists.1 hheader
    obtain ⟨message, rfl, honly⟩ := message_of_opening_header hp hv
    -- the end of the headers is not of the message that the header belongs to
    rcases List.append_eq_append_iff.1 hsplit with ⟨rest, rfl, hrest⟩ | ⟨rest, rfl, hrest⟩
    · cases rest with
      | nil => cases hrest
      | cons s rest =>
        have hbetween : between = rest ++ .envFrom :: message := (List.cons.inj hrest).2
        rw [hbetween]
        exact List.mem_append_right _ List.mem_cons_self
    · have hmem : Stage.eoh ∈ Stage.envFrom :: message := by
        rw [hrest]
        exact List.mem_append_right _ List.mem_cons_self
      rcases List.mem_cons.1 hmem with heq | hmem
      · cases heq
      · rcases honly _ hmem with heq | heq <;> cases heq
  case body =>
    rintro before after rfl
    obtain ⟨q, hq, hbody⟩ := reach_of_split h
    obtain rfl : q = body := by
      cases q <;> first | rfl | cases hbody
    obtain ⟨earlier, v, rfl, first, hfirst, fields, hfields, parts, hparts, rfl⟩ :=
      split_of_reach hq
    obtain ⟨message, hmessage, -, honly⟩ := message_of_addressed hfirst hfields
    exact ⟨earlier, message, parts, by rw [hmessage]; rfl, honly, hparts⟩

end Position

/-- A session that has not failed can `advance` by the stages just if its position leads on. -/
theorem Session.advance_all {s : Session} (hs : s.position ≠ .failed) (w : List Stage) :
    (∃ s', w.foldlM Session.advance s = .ok s') ↔ (s.position.reach w).isSome = true := by
  induction w generalizing s with
  | nil => exact ⟨fun _ => rfl, fun _ => ⟨s, rfl⟩⟩
  | cons stage rest ih =>
    rw [Position.reach_cons, List.foldlM_cons, Session.advance, if_neg hs]
    cases hn : s.position.next stage with
    | none =>
      constructor
      · rintro ⟨s', ⟨⟩⟩
      · rintro ⟨⟩
    | some q =>
      have hq : q ≠ .failed := fun hfailed => Position.next_ne_failed _ _ (hfailed ▸ hn)
      exact ih (s := { s with position := q }) hq

/-- **The transition table takes exactly the words of the grammar** `Stage.connection`, and in all of
them the stages are `Orderly`. What leads on step by step with `Position.next` is what a new session
takes, and what is never refused in a `Position.run`. -/
theorem taken_iff_mem_connection (w : List Stage) :
    ((w.foldlM Position.next .connected).isSome = true ↔ w ∈ Stage.connection) ∧
    ((w.foldlM Position.next .connected).isSome = true ↔
      ∀ step ∈ Position.connected.run w, step.isSome = true) ∧
    (∀ s : Session, s.position = .connected →
      ((w.foldlM Position.next .connected).isSome = true ↔
        ∃ s', w.foldlM Session.advance s = .ok s')) ∧
    (w ∈ Stage.connection → Stage.Orderly w) := by
  refine ⟨⟨Position.mem_connection_of_reach, Position.reach_of_mem⟩,
    (Position.run_isSome_iff _ w).symm, fun s hs => ?_,
    fun hw => Position.orderly_of_reach (Position.reach_of_mem hw)⟩
  have hadvance := Session.advance_all (s := s) (by simp [hs]) w
  rw [hs] at hadvance
  exact hadvance.symm

/-- Two messages, of which the first is abandoned. -/
example : (Position.connected.reach [.helo, .envFrom, .envRcpt, .eoh, .abort, .envFrom, .envRcpt,
    .header, .eom]) = some .greeted := rfl

end MailFilter

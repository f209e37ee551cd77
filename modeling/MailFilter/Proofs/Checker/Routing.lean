/-
Registration of checkers, and calls from outside.

Checkers can be registered together just if no two of them have one name, no name is that of two one-way
channels, and none that of two channels with an answer; a channel of the one sort may have the name of one
of the other. A call of a channel is then the work of the one handler that has been registered for it.

* `distinct_of_fault?`, `repeats_of_fault?`: what going through the checkers finds;
* `new_eq_ok_iff`: which checkers can be registered;
* `routes_deliver`: what a call of a channel does;
* `registered_routes`: both, for a list of checkers.
-/
import Mathlib.Data.List.Count
import Mathlib.Data.List.Nodup
import Mathlib.Data.List.Pairwise
import MailFilter.Checker.Registry
import MailFilter.Checker.Scripted
import MailFilter.Proofs.Data.Fields

namespace MailFilter.Registry

variable {σ : Type}

/-! ### Names in use -/

/-- Where `firstRepeated` finds no name, none is there twice. -/
theorem nodup_of_firstRepeated {seen names : List String} (hseen : seen.Nodup)
    (h : firstRepeated seen names = none) : (names ++ seen).Nodup := by
  induction names generalizing seen with
  | nil => exact hseen
  | cons name rest ih =>
    rw [firstRepeated] at h
    split at h
    · cases h
    · next hnew =>
      have hname : name ∉ seen := by simpa using hnew
      exact List.perm_middle.nodup_iff.1 (ih (List.nodup_cons.2 ⟨hname, hseen⟩) h)

theorem count_of_firstRepeated {seen names : List String} {name : String}
    (h : firstRepeated seen names = some name) : 2 ≤ (names ++ seen).count name := by
  induction names generalizing seen with
  | nil => cases h
  | cons x rest ih =>
    rw [firstRepeated] at h
    split at h
    · next hold =>
      obtain rfl := Option.some.inj h
      have hseen : 0 < seen.count x := List.count_pos_iff.2 (by simpa using hold)
      rw [List.count_append, List.count_cons_self]
      omega
    · exact (List.perm_middle.count_eq name) ▸ ih h

namespace Names

/-- No name is used twice: `fault?` finds nothing in what has been gone through. -/
structure Distinct (names : Names) : Prop where
  checkers : names.checkers.Nodup
  ipc : names.ipc.Nodup
  rpc : names.rpc.Nodup

/-- The fault tells of a name that is used twice. -/
inductive Repeats (names : Names) : ConfigFault → Prop where
  | checker {name : String} (h : 2 ≤ names.checkers.count name) : Repeats names (.duplicateModule name)
  | ipc {name : String} (h : 2 ≤ names.ipc.count name) : Repeats names (.duplicateIpc name)
  | rpc {name : String} (h : 2 ≤ names.rpc.count name) : Repeats names (.duplicateRpc name)

variable {names : Names} {fault : ConfigFault}

theorem Repeats.not_distinct (h : names.Repeats fault) : ¬ names.Distinct := by
  intro hd
  cases h with
  | @checker name h => exact absurd (List.nodup_iff_count_le_one.1 hd.checkers name) (by omega)
  | @ipc name h => exact absurd (List.nodup_iff_count_le_one.1 hd.ipc name) (by omega)
  | @rpc name h => exact absurd (List.nodup_iff_count_le_one.1 hd.rpc name) (by omega)

/-- A name that is used twice is so whatever `add` adds. -/
theorem Repeats.add (h : names.Repeats fault) (c : Checker σ) : (names.add c).Repeats fault := by
  cases h with
  | checker h => exact .checker (Nat.le_trans h (List.count_le_count_cons ..))
  | ipc h => exact .ipc (by rw [Names.add, List.count_append]; omega)
  | rpc h => exact .rpc (by rw [Names.add, List.count_append]; omega)

theorem Repeats.foldl (h : names.Repeats fault) (cs : List (Checker σ)) :
    (cs.foldl Names.add names).Repeats fault := by
  induction cs generalizing names with
  | nil => exact h
  | cons c rest ih => exact ih (h.add c)

/-- A checker in which `fault?` finds nothing adds no name that is in use. -/
theorem Distinct.add (hd : names.Distinct) {c : Checker σ} (h : names.fault? c = none) :
    (names.add c).Distinct := by
  rw [Names.fault?] at h
  split at h
  · cases h
  · next hname =>
    split at h
    · cases h
    · next hipc =>
      rw [Option.map_eq_none_iff] at h
      exact ⟨List.nodup_cons.2 ⟨by simpa using hname, hd.checkers⟩,
        nodup_of_firstRepeated hd.ipc hipc, nodup_of_firstRepeated hd.rpc h⟩

theorem repeats_of_fault? {c : Checker σ} (h : names.fault? c = some fault) :
    (names.add c).Repeats fault := by
  rw [Names.fault?] at h
  split at h
  · next hname =>
    obtain rfl := Option.some.inj h
    have hused : 0 < names.checkers.count c.name := List.count_pos_iff.2 (by simpa using hname)
    exact .checker (by rw [Names.add, List.count_cons_self]; omega)
  · split at h
    · next hipc =>
      obtain rfl := Option.some.inj h
      exact .ipc (count_of_firstRepeated hipc)
    · obtain ⟨name, hrpc, rfl⟩ := Option.map_eq_some_iff.1 h
      exact .rpc (count_of_firstRepeated hrpc)

/-! ### Going through the checkers -/

/-- The names that the checkers `cs` use. -/
def ofCheckers (cs : List (Checker σ)) : Names where
  checkers := cs.map (·.name)
  ipc := (cs.flatMap (·.ipc)).map (·.name)
  rpc := (cs.flatMap (·.rpc)).map (·.name)

/-- The names in use are those of the checkers `cs` and those of `start`, in whatever order. -/
structure Gathers (names : Names) (cs : List (Checker σ)) (start : Names) : Prop where
  checkers : names.checkers.Perm ((ofCheckers cs).checkers ++ start.checkers)
  ipc : names.ipc.Perm ((ofCheckers cs).ipc ++ start.ipc)
  rpc : names.rpc.Perm ((ofCheckers cs).rpc ++ start.rpc)

theorem gathers_foldl (cs : List (Checker σ)) (start : Names) :
    (cs.foldl Names.add start).Gathers cs start := by
  induction cs generalizing start with
  | nil => exact ⟨.refl _, .refl _, .refl _⟩
  | cons c rest ih =>
    have hrest := ih (start.add c)
    -- the names of the first checker have been put before the start, not before those of the rest
    refine ⟨hrest.checkers.trans List.perm_middle, hrest.ipc.trans ?_, hrest.rpc.trans ?_⟩
    · simp only [ofCheckers, Names.add, List.flatMap_cons, List.map_append, List.append_assoc]
      exact List.perm_append_comm_assoc ..
    · simp only [ofCheckers, Names.add, List.flatMap_cons, List.map_append, List.append_assoc]
      exact List.perm_append_comm_assoc ..

theorem distinct_foldl_iff (cs : List (Checker σ)) :
    (cs.foldl Names.add {}).Distinct ↔ (ofCheckers cs).Distinct := by
  have hall := gathers_foldl cs {}
  constructor
  · intro h
    exact ⟨by simpa using hall.checkers.nodup_iff.1 h.checkers, by simpa using hall.ipc.nodup_iff.1 h.ipc,
      by simpa using hall.rpc.nodup_iff.1 h.rpc⟩
  · intro h
    exact ⟨hall.checkers.nodup_iff.2 (by simpa using h.checkers), hall.ipc.nodup_iff.2 (by simpa using h.ipc),
      hall.rpc.nodup_iff.2 (by simpa using h.rpc)⟩

theorem repeats_ofCheckers {cs : List (Checker σ)} (h : (cs.foldl Names.add {}).Repeats fault) :
    (ofCheckers cs).Repeats fault := by
  have hall := gathers_foldl cs {}
  cases h with
  | @checker name h => exact .checker (by simpa [hall.checkers.count_eq name] using h)
  | @ipc name h => exact .ipc (by simpa [hall.ipc.count_eq name] using h)
  | @rpc name h => exact .rpc (by simpa [hall.rpc.count_eq name] using h)

end Names

/-- Going through checkers, the names in use stay `Distinct` as long as `fault?` finds nothing. -/
theorem distinct_of_fault? {names : Names} {cs : List (Checker σ)} (hd : names.Distinct)
    (h : fault? names cs = none) : (cs.foldl Names.add names).Distinct := by
  induction cs generalizing names with
  | nil => exact hd
  | cons c rest ih =>
    rw [fault?] at h
    split at h
    · cases h
    · next hc => exact ih (hd.add hc) h

theorem repeats_of_fault? {names : Names} {cs : List (Checker σ)} {fault : ConfigFault}
    (h : fault? names cs = some fault) : (cs.foldl Names.add names).Repeats fault := by
  induction cs generalizing names with
  | nil => cases h
  | cons c rest ih =>
    rw [fault?] at h
    split at h
    · next hc =>
      obtain rfl := Option.some.inj h
      exact (Names.repeats_of_fault? hc).foldl rest
    · exact ih h

/-! ### Construction -/

variable {cs : List (Checker σ)}

theorem new_eq_ok_iff {r : Registry σ} :
    new cs = .ok r ↔ (Names.ofCheckers cs).Distinct ∧ r = ⟨cs⟩ := by
  rw [new]
  cases hfault : fault? {} cs with
  | some fault =>
    have hnot := (Names.repeats_ofCheckers (repeats_of_fault? hfault)).not_distinct
    simp [hnot]
  | none =>
    have hd := (Names.distinct_foldl_iff cs).1 (distinct_of_fault? ⟨.nil, .nil, .nil⟩ hfault)
    simp [hd, eq_comm]

theorem repeats_of_new {fault : Fault} (h : new cs = .error fault) :
    ∃ f, fault = .config f ∧ (Names.ofCheckers cs).Repeats f := by
  rw [new] at h
  split at h
  · next f hf =>
    cases h
    exact ⟨f, rfl, Names.repeats_ofCheckers (repeats_of_fault? hf)⟩
  · cases h

/-! ### Calls -/

/-- What the work of the handler of `c` comes to for who has called its channel. -/
def handled {α : Type} (kind : String) (c : Channel σ α) (payload : Json) (s : σ) :
    Except Fault α × σ :=
  ((c.handle payload s).1.mapError fun text =>
    .module (kind ++ " " ++ c.name ++ " failed: " ++ text), (c.handle payload s).2)

/-- What a call comes to if there is no channel of that name: nothing has been done. -/
def unheard {α : Type} (kind name : String) (s : σ) : Except Fault α × σ :=
  (.error (.module ("Unknown " ++ kind ++ " channel: " ++ name)), s)

section

variable {α : Type} {kind : String} {channels : List (Channel σ α)}

theorem deliver_of_mem (hd : (channels.map (·.name)).Nodup) {c : Channel σ α} (h : c ∈ channels)
    (payload : Json) (s : σ) : deliver kind channels c.name payload s = handled kind c payload s := by
  have hfind : channels.find? (fun c' => c'.name == c.name) = some c :=
    find?_of_nodup hd h fun _ => beq_iff_eq
  rw [deliver, hfind, handled]
  dsimp only
  rcases c.handle payload s with ⟨_ | _, s'⟩ <;> rfl

theorem deliver_of_not_mem {name : String} (h : ∀ c ∈ channels, c.name ≠ name) (payload : Json)
    (s : σ) : deliver kind channels name payload s = unheard kind name s := by
  have hfind : channels.find? (fun c => c.name == name) = none := by
    rw [List.find?_eq_none]
    intro c hc
    simpa using h c hc
  rw [deliver, hfind]
  rfl

/-- Calls go to the channels that the checkers `cs` have registered, and `listing` has their names in
order. -/
structure Routes (kind : String) (channels : Checker σ → List (Channel σ α)) (cs : List (Checker σ))
    (call : String → Json → σ → Except Fault α × σ) (listing : List String) : Prop where
  /-- A name is that of one channel of one checker. -/
  unique : ∀ c ∈ cs, ∀ ch ∈ channels c, ∀ c' ∈ cs, ∀ ch' ∈ channels c',
    ch.name = ch'.name → c = c' ∧ ch = ch'
  /-- Calling it is the work of its handler, and of nothing else. -/
  known : ∀ c ∈ cs, ∀ ch ∈ channels c, ∀ payload s, call ch.name payload s = handled kind ch payload s
  unknown : ∀ name, (∀ c ∈ cs, ∀ ch ∈ channels c, ch.name ≠ name) →
    ∀ payload s, call name payload s = unheard kind name s
  /-- The listing has each name once, in order. -/
  listed : listing.Perm ((cs.flatMap channels).map (·.name))
  sorted : listing.Pairwise (· ≤ ·)

theorem channelNames_perm (channels : List (Channel σ α)) :
    (channelNames channels).Perm (channels.map (·.name)) :=
  List.mergeSort_perm ..

theorem pairwise_channelNames (channels : List (Channel σ α)) :
    (channelNames channels).Pairwise (· ≤ ·) := by
  have hsorted : (channelNames channels).Pairwise fun a b => decide (a ≤ b) = true :=
    List.pairwise_mergeSort (by simpa using fun _ _ _ => String.le_trans)
      (by simpa using String.le_total) (channels.map (·.name))
  exact hsorted.imp of_decide_eq_true

/-- With distinct names, `deliver` finds channels by their names. -/
theorem routes_deliver {channels : Checker σ → List (Channel σ α)}
    (hd : ((cs.flatMap channels).map (·.name)).Nodup) :
    Routes kind channels cs (deliver kind (cs.flatMap channels))
      (channelNames (cs.flatMap channels)) where
  unique c hc ch hch c' hc' ch' hch' hname := by
    have hsplit := hd
    rw [List.map_flatMap, List.nodup_flatMap] at hsplit
    -- different checkers have no name of a channel in common
    have hsame : c = c' := by
      by_contra hne
      have hsymm : Std.Symm (Function.onFun List.Disjoint fun c => (channels c).map (·.name)) :=
        ⟨fun _ _ h _ hname hname' => h hname' hname⟩
      exact hsplit.2.forall hc hc' hne (List.mem_map_of_mem hch) (hname ▸ List.mem_map_of_mem hch')
    obtain rfl := hsame
    exact ⟨rfl, List.inj_on_of_nodup_map (hsplit.1 c hc) hch hch' hname⟩
  known c hc ch hch := deliver_of_mem hd (List.mem_flatMap.2 ⟨c, hc, hch⟩)
  unknown name h := deliver_of_not_mem fun ch hch => by
    obtain ⟨c, hc, hmem⟩ := List.mem_flatMap.1 hch
    exact h c hc ch hmem
  listed := channelNames_perm _
  sorted := pairwise_channelNames _

end

/-- **Registered channels are routed**: checkers can be registered together just if their names are distinct,
and so are the names of their one-way channels and those of their channels with an answer; else the fault
is in the settings and tells of a name that is there twice. Once they are registered, a call of a channel
is the work of the handler registered for it; a call of any other name fails, and nothing is done. -/
theorem registered_routes (cs : List (Checker σ)) :
    ((∃ r, new cs = .ok r) ↔ (Names.ofCheckers cs).Distinct) ∧
    (∀ fault, new cs = .error fault → ∃ f, fault = .config f ∧ (Names.ofCheckers cs).Repeats f) ∧
    ∀ r, new cs = .ok r → r.checkers = cs ∧
      Routes "IPC" (·.ipc) cs r.dispatchIpc (channelNames r.ipc) ∧
      Routes "RPC" (·.rpc) cs r.callRpc (channelNames r.rpc) := by
  refine ⟨?_, fun fault h => repeats_of_new h, ?_⟩
  · constructor
    · rintro ⟨r, h⟩
      exact (new_eq_ok_iff.1 h).1
    · exact fun hd => ⟨⟨cs⟩, new_eq_ok_iff.2 ⟨hd, rfl⟩⟩
  · intro r h
    obtain ⟨hd, rfl⟩ := new_eq_ok_iff.1 h
    exact ⟨rfl, routes_deliver hd.ipc, routes_deliver hd.rpc⟩

/-- Two checkers, one of which has a one-way channel and a channel with an answer of the same name. -/
def twoCheckers : List (Checker Journal) :=
  [Script.checker { name := "cache", ipc := [⟨"cache.reset", some "busy"⟩], rpc := [⟨"cache.reset", none⟩] },
    Script.checker { name := "audit", ipc := [⟨"audit.flush", none⟩] }]

/-- The checkers of `twoCheckers` can be registered together. The one-way channel of that name fails when
it has been reached, the other one answers, and what is called that nobody has registered is not reached
at all. -/
theorem registered_routes_two :
    (∃ r, new twoCheckers = .ok r ∧
      r.dispatchIpc "cache.reset" .null {} = (.error (.module "IPC cache.reset failed: busy"),
        ⟨[.delivered "cache" "cache.reset" .null], []⟩) ∧
      r.callRpc "cache.reset" .null {}
        = (.ok (.object [("echo", .null), ("module", .text "cache")]), {}) ∧
      r.callRpc "audit.flush" .null {} = (.error (.module "Unknown RPC channel: audit.flush"), {})) := by
  have hd : (Names.ofCheckers twoCheckers).Distinct := ⟨by decide, by decide, by decide⟩
  obtain ⟨r, hr⟩ := (registered_routes twoCheckers).1.2 hd
  obtain ⟨-, hipc, hrpc⟩ := (registered_routes twoCheckers).2.2 r hr
  refine ⟨r, hr, ?_, ?_, ?_⟩
  · exact hipc.known _ (.head _) _ (.head _) .null {}
  · exact hrpc.known _ (.head _) _ (.head _) .null {}
  · refine hrpc.unknown "audit.flush" ?_ .null {}
    decide

end MailFilter.Registry

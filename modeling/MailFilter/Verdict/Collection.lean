/-
Collecting results as they arrive.

Each kind of disposition has a running score. Once one reaches the breaker threshold, later results
are no longer collected. The verdict is decided on the collected results in the order of their
modules, so the order of arrival matters only for where collection stops.
-/
import MailFilter.Verdict.Basic
import MailFilter.Verdict.Weighting

namespace MailFilter

/-- The results collected so far, each with the place of its module. Once it has `tripped`, nothing more
is collected. -/
structure Collection (ρ : Type) where
  collected : List (Nat × CheckResult ρ) := []
  /-- The running score of each disposition. -/
  running : Action → ρ
  tripped : Bool := false

namespace Collection

variable {ρ : Type} [Score ρ]

/-- The collection before anything has arrived. -/
def empty : Collection ρ := { running := fun _ => Score.zero }

/-- Takes in the result `r` of the module at `place`, unless collection has stopped. -/
def add (scoring : Scoring ρ) (c : Collection ρ) (place : Nat) (r : CheckResult ρ) :
    Collection ρ :=
  if c.tripped then c
  else
    let r := r.normalized
    let score := Score.add (c.running r.action) r.score
    { collected := c.collected ++ [(place, r)]
      running := fun a => if a = r.action then score else c.running a
      tripped := Verdict.reaches score scoring.breakerThreshold }

/-- Takes in results in the order of their arrival, each with `add`. -/
def addAll (scoring : Scoring ρ) (c : Collection ρ) (arrivals : List (Nat × CheckResult ρ)) :
    Collection ρ :=
  arrivals.foldl (fun c arrival => c.add scoring arrival.1 arrival.2) c

/-- The results `collected`, in the order of their modules. -/
def results (c : Collection ρ) : List (CheckResult ρ) :=
  (c.collected.mergeSort fun a b => a.1 ≤ b.1).map (·.2)

/-- The verdict on the collected results, after `applyGroups` has rescaled them. -/
def verdict (scoring : Scoring ρ) (c : Collection ρ) : Verdict ρ :=
  { Verdict.decide scoring (applyGroups scoring.groups c.results) with breakerTripped := c.tripped }

end Collection

end MailFilter

/-
Group weights.

A group shares its weight among the members that returned a result other than a failure. A result
is rescaled by the first group that lists its module and has such a member with a positive weight.
-/
import MailFilter.Verdict.Result
import MailFilter.Config.Basic

namespace MailFilter

variable {ρ : Type} [Score ρ]

namespace ModuleGroup

/-- The weight of a module within a group, if it is among the `members`. -/
def weightOf (g : ModuleGroup ρ) (module : String) : Option ρ :=
  Fields.find? module g.members

/-- Whether a group is to rescale a result: its module is a member and not among `done`. -/
def claims (g : ModuleGroup ρ) (done : List String) (r : CheckResult ρ) : Bool :=
  (g.weightOf r.module).isSome && !done.contains r.module

/-- The weights of the results that the group `claims` and that are no failures. -/
def sharedWeights (g : ModuleGroup ρ) (done : List String) (results : List (CheckResult ρ)) :
    List ρ :=
  (results.filter fun r => g.claims done r && r.action != .error).filterMap fun r =>
    g.weightOf r.module

/-- A result rescaled by a group: its score times its `weightOf` times `scale`. -/
def rescale (g : ModuleGroup ρ) (done : List String) (scale : ρ) (r : CheckResult ρ) :
    CheckResult ρ :=
  match g.weightOf r.module with
  | some w =>
    if g.claims done r && r.action != .error then
      { r with weightedScore := Score.mul (Score.mul r.score w) scale }
    else r
  | none => r

/-- Applies a group to the results that no group before it has rescaled: the modules `done` by now, and
the results. -/
def apply (g : ModuleGroup ρ) (done : List String) (results : List (CheckResult ρ)) :
    List String × List (CheckResult ρ) :=
  let claimed := results.filter (g.claims done)
  let total := Score.sum (g.sharedWeights done results)
  if claimed.isEmpty || Score.le total Score.zero then (done, results)
  else
    (done ++ claimed.map (·.module), results.map (g.rescale done (Score.div g.weight total)))

end ModuleGroup

/-- Applies groups in their order, once the modules `done` have been rescaled. -/
def applyGroupsFrom (done : List String) (results : List (CheckResult ρ)) :
    List (ModuleGroup ρ) → List (CheckResult ρ)
  | [] => results
  | g :: gs =>
    let (done, results) := g.apply done results
    applyGroupsFrom done results gs

/-- Rescales the results of grouped modules, group by group with `ModuleGroup.apply`. -/
def applyGroups (groups : List (ModuleGroup ρ)) (results : List (CheckResult ρ)) :
    List (CheckResult ρ) :=
  applyGroupsFrom [] results groups

end MailFilter

/-
The conditions on settings that their types leave open.
-/
import MailFilter.Config.Basic
import MailFilter.Fault
import MailFilter.Text.Blank

namespace MailFilter.Config

/-- Whether a weight is a finite number that is not negative. -/
def isWeight (w : Float) : Bool :=
  w.isFinite && !(w < 0.0)

/-- What is wrong with a group, if anything is: its own weight, else the first of a member that is no
`isWeight`. -/
def groupFault (g : ModuleGroup Float) : Option ConfigFault :=
  if !isWeight g.weight then some (.groupWeight g.name g.weight)
  else (g.members.find? fun m => !isWeight m.2).map fun m => .memberWeight g.name m.1 m.2

/-- The thresholds with their names. -/
def thresholds (s : Scoring Float) : List (String × Float) :=
  [("reject_threshold", s.rejectThreshold), ("tempfail_threshold", s.tempfailThreshold),
    ("breaker_threshold", s.breakerThreshold), ("spam_flag_threshold", s.spamFlagThreshold),
    ("error_score", s.errorScore)]

/-- All that is wrong with the settings, most important first: `thresholds`, and then groups. -/
def faults (c : Config) : List ConfigFault :=
  ((thresholds c.scoring).filter fun t => !t.2.isFinite).map (fun t => .notFinite t.1) ++
    c.scoring.groups.filterMap groupFault ++
    (if c.headers.any fun h => (Text.trim h.key).isEmpty then [.emptyHeaderKey] else []) ++
    (if c.milter.sessionMaxAgeSecs = 0 then [.zeroMaxAge] else [])

/-- Accepts settings without `faults`; otherwise names the first fault. -/
def validate (c : Config) : Except Fault Config :=
  match c.faults with
  | [] => .ok c
  | fault :: _ => .error (.config fault)

end MailFilter.Config

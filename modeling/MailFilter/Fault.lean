/-
Faults outside the protocol: in settings, in storage and in checkers.
-/
import MailFilter.Number.Style

namespace MailFilter

/-- What is wrong with the settings; `message` has the words. -/
inductive ConfigFault where
  | notFinite (field : String)
  | groupWeight (group : String) (weight : Float)
  | memberWeight (group member : String) (weight : Float)
  | emptyHeaderKey
  | zeroMaxAge
  | duplicateModule (name : String)
  | duplicateIpc (channel : String)
  | duplicateRpc (channel : String)
  | invalidPattern (rule detail : String)
  | invalidLength (rule detail : String)
  | noFile
  | noSource
  /-- The text could not be read as settings. -/
  | unreadable
  | other (text : String)

namespace ConfigFault

/-- The words for a fault in the settings. -/
def message : ConfigFault → String
  | notFinite field => "scoring." ++ field ++ " must be a finite number"
  | groupWeight group w =>
    "group '" ++ group ++ "' has invalid weight " ++ Number.plainStyle.text w
  | memberWeight group member w =>
    "group '" ++ group ++ "' member '" ++ member ++ "' has invalid weight " ++
      Number.plainStyle.text w
  | emptyHeaderKey => "header template with empty key"
  | zeroMaxAge => "milter.session_max_age_secs must be positive"
  | duplicateModule name => "Duplicate module name: " ++ name
  | duplicateIpc channel => "Duplicate IPC channel: " ++ channel
  | duplicateRpc channel => "Duplicate RPC channel: " ++ channel
  | invalidPattern rule detail => "Invalid pattern in rule " ++ rule ++ ": " ++ detail
  | invalidLength rule detail => "Invalid length in rule " ++ rule ++ ": " ++ detail
  | noFile => "No configuration file found"
  | noSource => "configuration has no source file"
  | unreadable => "unreadable settings"
  | other text => text

end ConfigFault

/-- A fault, by where it arose; `code` is its name. -/
inductive Fault where
  | config (fault : ConfigFault)
  | storage (text : String)
  | protocol (text : String)
  | module (text : String)
  | internal (text : String)
  | io (text : String)
  | other (text : String)

namespace Fault

/-- The code of a fault. -/
def code : Fault → String
  | config _ => "CONFIG_ERROR"
  | storage _ => "STORAGE_ERROR"
  | protocol _ => "PROTOCOL_ERROR"
  | module _ => "MODULE_ERROR"
  | internal _ => "INTERNAL_ERROR"
  | io _ => "IO_ERROR"
  | other _ => "INTERNAL_ERROR"

/-- The words for a fault. -/
def message : Fault → String
  | config fault => "Configuration error: " ++ fault.message
  | storage text => "Storage error: " ++ text
  | protocol text => "Protocol error: " ++ text
  | module text => "Module error: " ++ text
  | internal text => "Internal error: " ++ text
  | io text => text
  | other text => text

end Fault

/-- The fault of an address that cannot be read. -/
def Fault.invalidAddress (s : String) : Fault :=
  .protocol ("Invalid email address: " ++ s)

end MailFilter

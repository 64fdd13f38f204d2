import DubCheck.Host.Basic
import DubCheck.Text.Blank
import DubCheck.Text.Case
/-!
# Settings of the tool

What the environment says about the tool: where it keeps its state, which dub it runs, how much it
logs, and which compiler is preferred.  An empty variable counts as one that is not set.
-/

namespace DubCheck

/-- Settings of the tool. -/
structure ToolSettings where
  /-- The directory for logs and other state. -/
  homeDirectory : Path
  /-- The program dub. -/
  dub : String
  /-- The name of the lowest level that the server logs. -/
  logLevel : String
  /-- The compiler that is preferred, if there is one. -/
  preferredCompiler : Option String
deriving DecidableEq, Repr

namespace ToolSettings

/-- The directory for logs. -/
def logDirectory (s : ToolSettings) : Path :=
  s.homeDirectory.join (Path.ofText "logs")

/-- The home directory of the user, which must not be given relative to itself. -/
def userHome (h : Host) : Except Failure Path :=
  let home := (h.setting? "HOME").getD ""
  let trimmed := Text.dropEndWhile (· == '/') home.toList
  if trimmed.head? = some '~' then .error (.crashed "Could not determine home directory.")
  else .ok (Path.ofText (if trimmed.isEmpty then "/" else String.ofList trimmed))

/-- The settings that some variables give.  The user's home directory is always that of the host. -/
def ofVariables (h : Host) (env : List (String × String)) : Except Failure ToolSettings := do
  let value? (name : String) : Option String :=
    (env.lookup name).filter (!·.isEmpty)
  let home ← match value? "DUBSENSE_HOME" with
    | some home => pure (Path.ofText home)
    | none => do pure ((← userHome h).join (Path.ofText ".dubsense"))
  return {
    homeDirectory := home
    dub := (value? "DUBSENSE_DUB").getD "dub"
    logLevel := Text.upper ((value? "DUBSENSE_LOG_LEVEL").getD "INFO")
    preferredCompiler := value? "DC" }

/-- The settings that the environment gives. -/
def ofHost (h : Host) : Except Failure ToolSettings :=
  ofVariables h h.environment

end ToolSettings

end DubCheck

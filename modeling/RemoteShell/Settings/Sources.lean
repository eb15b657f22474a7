import RemoteShell.Disk
import RemoteShell.Json.Stored
import RemoteShell.Settings
import RemoteShell.Settings.EnvFile
import RemoteShell.Text.Case

set_option autoImplicit false

namespace RemoteShell.Settings

inductive Fault where
  | invalid (settings : List Invalid)
  | unreadable (fault : RemoteShell.Fault)

def Fault.message : Fault → Text
  | .invalid settings =>
    Text.ofNat settings.length ++
      (if settings.length = 1 then " validation error" else " validation errors").toList ++
      " for ShellConfig".toList ++
      settings.flatMap fun i =>
        '\n' :: i.setting ++ "\n  ".toList ++ i.problem.message ++ " [type=".toList ++
          i.problem.kind ++ [']']
  | .unreadable fault => fault.message

def variableLead : Text := "vfsh_".toList

/-- The settings among variables. Case does not matter in their names, and a name without a value
takes back what the name has so far. -/
def ofVariables (named : Assoc (Option Text)) : Assoc Value :=
  (Assoc.ofPairs (named.map fun v => (Text.lower v.1, v.2))).filterMap fun (name, value) =>
    if Text.hasPrefix variableLead name then
      value.map fun v => (name.drop variableLead.length, .text v)
    else none

/-- Missing values override nothing. -/
def ofOverrides (overrides : Assoc Value) : Assoc Value :=
  overrides.filter fun o =>
    match o.2 with
    | .null => false
    | _ => true

def defaultFile : Location := .home ".vfsh/config.json".toList

def envFile : Location := .given ".env".toList

/-- The settings in a file; a file that is missing or holds no object has none. Every key is taken
for the name of a setting, also `_env_prefix` and its like, by which a file could change how the
other sources are read. -/
def ofFile (d : Disk) (file : Location) : Except RemoteShell.Fault (Assoc Value) :=
  match d.read file with
  | .error .longName => .error (.longName file.text)
  | .error _ => .ok []
  | .ok content => (Json.object? content).map fun fields => (fields.getD []).named

def variableLayers (d : Disk) (environment : Assoc Text) : Layers :=
  let inFile :=
    match d.read envFile with
    | .ok content => EnvFile.parse environment (Utf8.decode content)
    | .error _ => []
  [ofVariables (environment.map fun v => (v.1, some v.2)), ofVariables inFile]

def load (d : Disk) (environment : Assoc Text) (file : Location) (overrides : Assoc Value) :
    Except Fault Settings :=
  let layers := variableLayers d environment
  match ofLayers layers with
  | .error is => .error (.invalid is)
  | .ok _ =>
    match ofFile d file with
    | .error fault => .error (.unreadable fault)
    | .ok fields =>
      (ofLayers (ofOverrides overrides :: layers ++ [fields])).mapError .invalid

end RemoteShell.Settings

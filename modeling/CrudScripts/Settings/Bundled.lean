import CrudScripts.Dialect.Registry
import CrudScripts.Settings.Load
import CrudScripts.Settings.Logging

/-!
The settings that come with the program, and how the service is launched: the application to serve,
and where.
-/
namespace CrudScripts.Settings
open CrudScripts.Data

/-- The settings that apply when no others are given. -/
def bundledSettings : Value :=
  .dict
    [("api", .dict [("host", .text "127.0.0.1"), ("port", .int 5001), ("debug", .bool false),
        ("version", .text "v1")]),
     ("base_dirs", .dict [("logs", .text "logs")]),
     ("logging", .dict
       [("level", .dict [("console", .text "INFO"), ("file", .text "DEBUG")]),
        ("rotation", .dict [("max_bytes", .int 10485760), ("backup_count", .int 5),
          ("encoding", .text "utf-8")])]),
     ("generation", .dict
       [("default_targets", .list (Dialect.supportedNames.map .text)),
        ("syntax_check", .bool true)]),
     ("entitlement", .dict [("cookie_name", .text "SQLGen_Pro"), ("cookie_value", .text "1")])]

/-- The configuration of the bundled settings on a machine; their log is open. -/
def bundledConfig (machine : Machine) : Config :=
  match load machine bundledSettings with
  | .ok config => { config with openLog := (logDirectory config).toOption }
  | .error _ => { sections := [], machine }

structure Launch where
  application : String
  host : Value
  port : Value
  reload : Value

def launch (config : Config) : Except Failure Launch := do
  let host ← config.setting "api" "host" (.text "127.0.0.1")
  let port ← config.setting "api" "port" (.int 5001)
  let reload ← config.setting "api" "debug" (.bool false)
  return ⟨"sqlgen:app", host, port, reload⟩

end CrudScripts.Settings

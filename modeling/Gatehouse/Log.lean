/-!
# Log lines

A log line has a level, a channel and a text.  Each part of the service writes
to a channel of its own.

Main results:

- `Channel.name_injective`: no two channels share a name.
-/

namespace Gatehouse

/-- How grave a log line is. -/
inductive Level
  | info
  | warning
  | error
deriving DecidableEq, Repr

/-- The name of a level. -/
def Level.name : Level → String
  | .info => "INFO"
  | .warning => "WARNING"
  | .error => "ERROR"

/-- The part of the service that writes a line. -/
inductive Channel
  | accounts
  | throttle
  | directory
  | settings
  | web
deriving DecidableEq, Repr

/-- The name of a channel. -/
def Channel.name : Channel → String
  | .accounts => "memberauth.auth"
  | .throttle => "memberauth.ratelimit"
  | .directory => "memberauth.members"
  | .settings => "memberauth.config"
  | .web => "memberauth.api"

/-- Channels are told apart by their names. -/
theorem Channel.name_injective {a b : Channel} (h : a.name = b.name) : a = b := by
  cases a <;> cases b <;> first | rfl | exact absurd h (by decide)

/-- One line of the log. -/
structure LogLine where
  level : Level
  channel : Channel
  text : String
deriving DecidableEq, Repr

end Gatehouse

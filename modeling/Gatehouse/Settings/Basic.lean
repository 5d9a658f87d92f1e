import Gatehouse.Json.Reader
import Gatehouse.Log
import Gatehouse.Settings.EnvFile
import Gatehouse.Settings.Expansion
import Gatehouse.Settings.Value

/-!
# Settings

The settings of the service come from the environment of its process and from an
environment file.  Names are compared without regard to case, and the
environment goes before the file.  Settings that are given nowhere have defaults.

Lists are given as JSON; a list that is no JSON text stops the reading.  The
other settings are checked one by one, and all that is wrong is reported.  Only
when nothing is wrong is the signing key looked at: without debugging it must be
given, and it must not be short.

Main results:

- `Settings.load`: the settings, with the lines that reading them logs.
- `settleKey_ok_iff`: which signing keys are taken, and as what.
- `value?_of_environment`: the environment goes before the file.
-/

namespace Gatehouse

open Gatehouse.Form Gatehouse.Text

/-- How the service runs. -/
structure Settings where
  debug : Bool
  secretKey : String
  databaseUrl : String
  corsOrigins : List String
  allowedHosts : List String
  /-- Lifetimes of tokens, in seconds. -/
  accessTtl : Int
  refreshTtl : Int
  temporaryTtl : Int
  /-- The cost of password digests. -/
  cost : Int
  /-- The key of other services; none may ask for temporary tokens when it is empty. -/
  internalKey : String
  capacity : Int
  refillTokens : Int
  refillSeconds : Float
  limitedPaths : List String
  /-- The time between two sweeps of the table of clients; zero for no sweeps. -/
  sweepSeconds : Int
  maxBuckets : Int
deriving Repr

namespace Settings

/-! ## Sources -/

/-- Where settings come from. -/
inductive Source
  | environment
  | file
deriving DecidableEq, Repr

/-- The name of a source in messages. -/
def Source.title : Source → String
  | .environment => "EnvSettingsSource"
  | .file => "DotEnvSettingsSource"

/-- The variables of a source under lower-case names, the last one of a name winning. -/
def foldNames {α : Type} (entries : Keyed α) : Keyed α :=
  Keyed.putAll [] (entries.map fun e => (fold e.1, e.2))

/-- The variables from which settings are read, under lower-case names. -/
structure Sources where
  environment : Keyed String
  /-- The variables of the file, some of which have no value. -/
  file : Keyed (Option String)

namespace Sources

/-- The sources that an environment and the text of a file make up. -/
def of (environment : Keyed String) (file : Option String) : Sources :=
  ⟨foldNames environment,
    foldNames (assignAll environment ((file.map assignments).getD []))⟩

/-- The text of a variable in one source. -/
def textIn? (s : Sources) (source : Source) (name : String) : Option String :=
  match source with
  | .environment => Keyed.lookup s.environment name
  | .file => (Keyed.lookup s.file name).join

/-- The text of a variable. -/
def value? (s : Sources) (name : String) : Option String :=
  (s.textIn? .environment name).or (s.textIn? .file name)

/-- The environment wins over the file. -/
theorem value?_of_environment {s : Sources} {name v : String}
    (h : Keyed.lookup s.environment name = some v) : s.value? name = some v := by
  simp [value?, textIn?, h]

end Sources

/-! ## Failures -/

/-- Why settings are not taken. -/
inductive Failure
  /-- The text of a list is no JSON text. -/
  | unreadable (name : String) (source : Source)
  /-- The text of a list has more nesting than is read. -/
  | nestedTooDeep
  | invalid (findings : List Finding)
deriving Repr

/-- The message about a list that is no JSON text. -/
def unreadableMessage (name : String) (source : Source) : String :=
  "error parsing value for field \"" ++ name ++ "\" from source \"" ++ source.title ++ "\""

/-! ## Lists -/

/-- The names of the settings that are lists. -/
def listNames : List String := ["cors_origins", "allowed_hosts", "rate_limited_paths"]

/-- The JSON value of a list in one source; null is as good as nothing. -/
def decodeIn (s : Sources) (source : Source) (name : String) : Except Failure (Option Json) :=
  match s.textIn? source name with
  | none => .ok none
  | some text =>
    match Json.read Json.usualNesting text with
    | .error .tooDeep => .error .nestedTooDeep
    | .error _ => .error (.unreadable name source)
    | .ok .null => .ok none
    | .ok v => .ok (some v)

/-- The values of the lists in one source. -/
def decodeLists (s : Sources) (source : Source) : Except Failure (Keyed Json) := do
  let found ← listNames.mapM fun name => do
    let v ← decodeIn s source name
    return v.toList.map fun v => (name, v)
  return found.flatten

/-! ## Checks -/

/-- Reading that goes on when something is wrong and gathers what it finds. -/
abbrev Gathering := StateM (List Finding)

/-- The value of a check, or a default after noting what the check finds. -/
def settle {α : Type} (default : α) (outcome : Checked α) : Gathering α := do
  match outcome with
  | .ok v => return v
  | .error fs =>
    modify (· ++ fs)
    return default

/-- A setting that is a single value. -/
def single {α : Type} (s : Sources) (name : String) (default : α)
    (rule : String → Except Violation α) : Gathering α :=
  match s.value? name with
  | none => pure default
  | some text => settle default (.named name (.string text) (rule text))

/-- A setting that is a list of texts. -/
def several (lists : Keyed Json) (name : String) (default : List String) :
    Gathering (List String) :=
  match Keyed.lookup lists name with
  | none => pure default
  | some v => settle default (texts name v)

/-- An integer that passes a check of its range. -/
def wholeThat (range : Int → Except Violation Int) (s : String) : Except Violation Int :=
  (whole s).bind range

/-- The starts of the paths that cost a token, unless others are set. -/
def usualLimitedPaths : List String :=
  ["/api/v1/auth/", "/api/v1/members/signup"]

/-- The settings, before the signing key is looked at. -/
def gather (s : Sources) (lists : Keyed Json) : Gathering Settings := do
  let debug ← single s "debug" false truth
  let secretKey ← single s "secret_key" "" .ok
  let databaseUrl ← single s "database_url" "sqlite:///<root>/memberauth.db" .ok
  let corsOrigins ← several lists "cors_origins"
    ["http://localhost", "http://localhost:3000", "http://127.0.0.1"]
  let allowedHosts ← several lists "allowed_hosts" ["*"]
  let accessTtl ← single s "access_token_ttl_seconds" 900 (wholeThat positive)
  let refreshTtl ← single s "refresh_token_ttl_seconds" 604800 (wholeThat positive)
  let temporaryTtl ← single s "temporary_token_ttl_seconds" 900 (wholeThat positive)
  let cost ← single s "bcrypt_rounds" 12 (wholeThat (within 4 31))
  let internalKey ← single s "internal_api_key" "" .ok
  let capacity ← single s "rate_limit_capacity" 5 (wholeThat positive)
  let refillTokens ← single s "rate_limit_refill_tokens" 5 (wholeThat positive)
  let refillSeconds ← single s "rate_limit_refill_seconds" 60 fun t =>
    (number t).bind positiveNumber
  let limitedPaths ← several lists "rate_limited_paths" usualLimitedPaths
  let sweepSeconds ← single s "rate_limit_sweep_seconds" 300 (wholeThat (atLeast 0))
  let maxBuckets ← single s "rate_limit_max_buckets" 10000 (wholeThat positive)
  return { debug, secretKey, databaseUrl, corsOrigins, allowedHosts, accessTtl, refreshTtl,
           temporaryTtl, cost, internalKey, capacity, refillTokens, refillSeconds, limitedPaths,
           sweepSeconds, maxBuckets }

/-- The names of the settings that are single values. -/
def singleNames : List String :=
  ["debug", "secret_key", "database_url", "access_token_ttl_seconds", "refresh_token_ttl_seconds",
    "temporary_token_ttl_seconds", "bcrypt_rounds", "internal_api_key", "rate_limit_capacity",
    "rate_limit_refill_tokens", "rate_limit_refill_seconds", "rate_limit_sweep_seconds",
    "rate_limit_max_buckets"]

/-- All that is given, as an object. -/
def given (s : Sources) (lists : Keyed Json) : Json :=
  .object ((listNames.filterMap fun name => (Keyed.lookup lists name).map fun v => (name, v)) ++
    singleNames.filterMap fun name => (s.value? name).map fun v => (name, .string v))

/-! ## The signing key -/

/-- The least length of a signing key, in characters. -/
def shortestKey : Nat := 32

/-- The line that a generated key leaves. -/
def generatedKey : LogLine :=
  ⟨.warning, .settings,
    "WARNING: Using auto-generated SECRET_KEY. Tokens will not persist across restarts."⟩

/-- The signing key to be used, where `fresh` is a random one. -/
def settleKey (debug : Bool) (fresh key : String) : Except Violation String :=
  let chosen := if key = "" then fresh else key
  if key = "" ∧ !debug then .error .keyMissing
  else if chosen.length < shortestKey then .error (.keyTooShort shortestKey)
  else .ok chosen

/-- A key is settled exactly when it is long enough, and only debugging replaces an empty one. -/
theorem settleKey_ok_iff {debug : Bool} {fresh key chosen : String} :
    settleKey debug fresh key = .ok chosen ↔
      (key = "" → debug = true) ∧ chosen = (if key = "" then fresh else key) ∧
        shortestKey ≤ chosen.length := by
  unfold settleKey
  by_cases hk : key = ""
  · cases debug with
    | false => simp [hk]
    | true =>
      by_cases hl : fresh.length < shortestKey
      · simp only [hk, hl, if_true, Bool.not_true, Bool.false_eq_true, and_false, if_false,
          reduceCtorEq, false_iff]
        rintro ⟨_, rfl, h⟩
        omega
      · simp only [hk, hl, if_true, Bool.not_true, Bool.false_eq_true, and_false, if_false,
          Except.ok.injEq, imp_self, true_and]
        exact ⟨fun h => ⟨h.symm, h ▸ Nat.le_of_not_lt hl⟩, fun h => h.1.symm⟩
  · by_cases hl : key.length < shortestKey
    · simp only [hk, hl, if_false, if_true, false_and, reduceCtorEq, false_iff]
      rintro ⟨_, rfl, h⟩
      omega
    · simp only [hk, hl, if_false, false_and, Except.ok.injEq, false_implies, true_and]
      exact ⟨fun h => ⟨h.symm, h ▸ Nat.le_of_not_lt hl⟩, fun h => h.1.symm⟩

/-! ## Loading -/

/-- The settings of an environment and a file, with the lines that reading them logs. -/
def load (fresh : String) (environment : Keyed String) (file : Option String) :
    Except Failure (Settings × List LogLine) := do
  let s := Sources.of environment file
  let inEnvironment ← decodeLists s .environment
  let inFile ← decodeLists s .file
  let lists := inEnvironment ++ inFile
  match StateT.run (gather s lists) [] with
  | (settings, []) =>
    match settleKey settings.debug fresh settings.secretKey with
    | .ok key =>
      let lines := if settings.secretKey = "" then [generatedKey] else []
      return ({ settings with secretKey := key }, lines)
    | .error v => throw (.invalid [⟨[], v, .value (given s lists)⟩])
  | (_, findings) => throw (.invalid findings)

end Settings

end Gatehouse

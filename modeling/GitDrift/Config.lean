import GitDrift.Text.Numeral
import GitDrift.Text.Utf8
import GitDrift.Time.Clock

/-!
Settings, which are read from the variables of the environment. A variable that is not set, is no
text, or is no number of its type leaves the setting at its default.
-/
namespace GitDrift

/-- The variables of a process, and their values as bytes. -/
abbrev Environment := List (String × List Nat)

namespace Environment

variable (env : Environment)

/-- The value of a variable, if it is a text. -/
def text? (name : String) : Option (List Char) := (env.lookup name).bind Text.decode?

/-- The value of a variable that is to be a number. -/
def number (name : String) (read : List Char → Option α) (default : α) : α :=
  ((env.text? name).bind read).getD default

def text (name default : String) : String := ((env.text? name).map String.ofList).getD default

end Environment

/-- Settings of the controller. -/
structure ControllerConfig where
  /-- Seconds until a failed Pattern is tried again when its failures are not known. -/
  reconciliationErrorRequeue : Nat := 60
  /-- Seconds between two reconciliations of a Pattern. -/
  reconcileInterval : Nat := 180
  /-- Seconds until a Pattern that could not be deleted is tried again. -/
  deletionRequeue : Nat := 120
  /-- The least poll interval, in seconds. -/
  minPollInterval : Int := 180
  /-- Seconds that a drift check may take; `0` for no limit. -/
  driftCheckTimeout : Nat := 120
  /-- Milliseconds of the first rest of a throttled stream. -/
  backoffStart : Span := 1000
  /-- Milliseconds of the longest rest of a throttled stream. -/
  backoffMax : Span := 30000
  /-- Seconds of rest after a fault of the stream. -/
  watchRestartDelay : Nat := 5
  /-- Seconds of rest after the stream has ended. -/
  watchRestartDelayAfterEnd : Nat := 1
  /-- The program that lists the references of a remote. -/
  gitBinary : String := "git"
  logLevel : String := "INFO"
deriving DecidableEq

namespace ControllerConfig

def ofEnvironment (env : Environment) : ControllerConfig :=
  let d : ControllerConfig := {}
  let u64 := Text.unsigned? 64
  { reconciliationErrorRequeue :=
      env.number "RECONCILIATION_ERROR_REQUEUE_SECS" u64 d.reconciliationErrorRequeue
    reconcileInterval := env.number "RECONCILE_INTERVAL_SECS" u64 d.reconcileInterval
    deletionRequeue := env.number "DELETION_REQUEUE_SECS" u64 d.deletionRequeue
    minPollInterval := env.number "MIN_POLL_INTERVAL_SECS" Text.signed? d.minPollInterval
    driftCheckTimeout := env.number "DRIFT_CHECK_TIMEOUT_SECS" u64 d.driftCheckTimeout
    backoffStart := env.number "BACKOFF_START_MS" u64 d.backoffStart
    backoffMax := env.number "BACKOFF_MAX_MS" u64 d.backoffMax
    watchRestartDelay := env.number "WATCH_RESTART_DELAY_SECS" u64 d.watchRestartDelay
    watchRestartDelayAfterEnd :=
      env.number "WATCH_RESTART_DELAY_AFTER_END_SECS" u64 d.watchRestartDelayAfterEnd
    gitBinary := env.text "GIT_BINARY" d.gitBinary
    logLevel := env.text "LOG_LEVEL" d.logLevel }

variable (c : ControllerConfig)

/-- How long a drift check may take; none when there is no limit. -/
def checkLimit : Option Span :=
  if c.driftCheckTimeout = 0 then none else some (Span.ofSeconds c.driftCheckTimeout)

def restartDelay : Span := Span.ofSeconds c.watchRestartDelay

def restartDelayAfterEnd : Span := Span.ofSeconds c.watchRestartDelayAfterEnd

end ControllerConfig

/-- Settings of the probe server. -/
structure ServerConfig where
  metricsPort : Nat := 8080
  /-- Seconds that the server may take to start. -/
  startupTimeout : Nat := 10
  /-- Milliseconds between two looks at a server that starts. -/
  pollInterval : Span := 50
deriving DecidableEq

def ServerConfig.ofEnvironment (env : Environment) : ServerConfig :=
  let d : ServerConfig := {}
  { metricsPort := env.number "METRICS_PORT" (Text.unsigned? 16) d.metricsPort
    startupTimeout := env.number "SERVER_STARTUP_TIMEOUT_SECS" (Text.unsigned? 64) d.startupTimeout
    pollInterval := env.number "SERVER_POLL_INTERVAL_MS" (Text.unsigned? 64) d.pollInterval }

end GitDrift

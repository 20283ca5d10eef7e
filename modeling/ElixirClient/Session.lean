import ElixirClient.Artifact
import ElixirClient.Config
import ElixirClient.Resolver

/-!
# The state of a run

A rendering step reads the configuration and the name table and may leave behind failures and log
lines. Both are kept when the step ends with a fault.
-/

namespace ElixirClient

inductive Level
  | debug
  | warning
deriving DecidableEq, Repr

/-- The part of the program that a log line comes from. -/
inductive Logger
  | driver
  | state
  | codegen
deriving DecidableEq, Repr

structure LogLine where
  level : Level
  logger : Logger
  message : String
deriving DecidableEq, Repr

def Level.label : Level → String
  | .debug => "DEBUG"
  | .warning => "WARNING"

def Logger.label : Logger → String
  | .driver => "oapi_generator.driver"
  | .state => "oapi_generator.state"
  | .codegen => "oapi_generator.codegen"

def LogLine.text (line : LogLine) : String :=
  line.level.label ++ " " ++ line.logger.label ++ ": " ++ line.message

/-- What a run has left behind so far. -/
structure Trace where
  failures : List Dangling := []
  log : List LogLine := []
deriving DecidableEq, Repr

/-- A rendering step: it may end with a fault and always leaves a trace. -/
abbrev Render := ExceptT Fault (StateM Trace)

namespace Render

def ofExcept : Except Fault α → Render α
  | .ok a => pure a
  | .error fault => throw fault

def log (level : Level) (logger : Logger) (message : String) : Render Unit :=
  modify fun t => { t with log := t.log ++ [⟨level, logger, message⟩] }

/-- Leaves an artifact out because of a dangling reference. -/
def leaveOut (dangling : Dangling) (artifact : String) : Render Unit := do
  let failure := dangling.attributedTo artifact
  log .warning .state ("Skipping " ++ failure.message)
  modify fun t => { t with failures := t.failures ++ [failure] }

/-- Runs a step; a dangling reference in it leaves the artifact out, any other fault stands. -/
def recording (artifact : String) (step : Render α) : Render (Option α) :=
  tryCatch (some <$> step) fun
    | .dangling dangling => do
      leaveOut dangling artifact
      return none
    | fault => throw fault

end Render

/-- What every step may read. -/
structure Scope where
  config : Config
  names : NameTable
deriving Repr

def Scope.resolver (scope : Scope) : Resolver := ⟨scope.config.baseModule, scope.names⟩

end ElixirClient

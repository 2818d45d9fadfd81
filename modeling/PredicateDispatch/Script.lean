import PredicateDispatch.Program.Run
import PredicateDispatch.Script.Evaluation
import PredicateDispatch.Text

/-!
# Scripts

A script is a sequence of steps on a fresh registry, with the base library installed or without it.  A
step that fails does not stop the script.  The trace of a script is the text of the dispatch decisions of
its steps, line by line; those of the installation are left out.
-/

namespace PredicateDispatch

structure Script where
  steps : List Script.Step
  withLibrary : Bool
  configuration : Configuration
  consoleIsOpen : Bool

namespace Script

/-- What became of a step: its outcome, unless it ran too deep, and its dispatch decisions. -/
structure Record where
  outcome : Option (Except Error Answer)
  events : List DispatchEvent

/-- How deep runs may be nested. -/
def greatestDepth : Nat := 1000000

def exec {α : Type} (configuration : Configuration) (program : Program ScriptCode α)
    (world : World ScriptCode) : Result ScriptCode α :=
  program.exec (meaning configuration.caching) greatestDepth world

/-- Starts a new journal. -/
def clearJournal (world : World ScriptCode) : World ScriptCode :=
  { world with registry := { world.registry with journal := [] } }

/-- The world before the first step. -/
def start (script : Script) : World ScriptCode :=
  let world : World ScriptCode :=
    { registry := Registry.fresh script.configuration, console := { isOpen := script.consoleIsOpen } }
  if script.withLibrary then
    match exec script.configuration (Query.install.run script.configuration.caching) world with
    | some (_, world) => clearJournal world
    | none => world
  else world

/-- Runs steps one after the other.  A step that runs too deep leaves the world as it was. -/
def runSteps (configuration : Configuration) : List Step → World ScriptCode → List Record
  | [], _ => []
  | step :: rest, world =>
    match exec configuration (step.run configuration.caching []) (clearJournal world) with
    | some (outcome, after) =>
      ⟨some outcome, after.registry.journal.reverse⟩ :: runSteps configuration rest after
    | none => ⟨none, []⟩ :: runSteps configuration rest world

def run (script : Script) : List Record :=
  runSteps script.configuration script.steps script.start

/-- The lines of the trace, with a heading before every step but the first.  A name may hold several
lines. -/
def trace (records : List Record) : List String :=
  (records.mapIdx fun index record =>
    (if index = 0 then [] else ["[STEP] " ++ toString index]) ++
      record.events.flatMap fun event => Text.lines event.text).flatten

end Script

end PredicateDispatch

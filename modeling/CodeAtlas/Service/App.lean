import CodeAtlas.Service.Values

/-!
# The application

The application holds the engine and the watcher. Its stores are opened at first use, so that it starts
quickly; if one of them cannot be opened, the next use tries again.
-/

namespace CodeAtlas.Service

open CodeAtlas.Index

/-- A watcher of files: whether it runs, and whether it was ever put to work in a loop of its own. -/
structure Watcher where
  running : Bool := false
  looping : Bool := false
  deriving Repr, DecidableEq, Inhabited

namespace Watcher

/-- Starts watching, in a loop of its own if asked for. -/
def start (w : Watcher) (looping : Bool) : Watcher :=
  { running := true, looping := w.looping || looping }

/-- Stops watching, which ends the loop if there is one. -/
def stop (w : Watcher) : Watcher :=
  { w with running := false }

end Watcher

/-- The application: its engine and watcher, whether its stores were made, and whether all of it is
ready. -/
structure App where
  engine : Engine
  watcher : Watcher := {}
  stores : Bool := false
  ready : Bool := false

namespace App

variable {α : Type}

/-- An action of the engine. -/
def onEngine (x : Action Engine α) : Action App α :=
  x.within (·.engine) fun a e => { a with engine := e }

/-- An action on the vector store. -/
def onVectors (x : Action VectorStore α) : Action App α :=
  onEngine (Engine.onVectors x)

/-- A question to the catalog, with the events that it leads to. -/
def askCatalog (f : Catalog → α × Log) : Action App α := do
  let (answer, log) := f (← Action.get).engine.catalog
  Action.recordAll log
  return answer

/-- Makes new stores, which are closed. -/
def renewStores (a : App) : App :=
  { a with
    stores := true
    engine := { a.engine with catalog := a.engine.catalog.close, vectors := a.engine.vectors.close } }

/-- Makes the application ready, if it is not. -/
def ensureReady : Action App Unit := do
  if (← Action.get).ready then pure ()
  else do
    Action.modify renewStores
    onEngine Engine.openStores
    Action.modify fun a =>
      { a with engine := { a.engine with loaded := false }, watcher := {}, ready := true }

/-- Tells the client something. -/
def tell (severity : Severity) (text : String) : Action App Unit :=
  Action.modify fun a =>
    { a with engine := { a.engine with notices := a.engine.notices ++ [⟨severity, text⟩] } }

end App

end CodeAtlas.Service

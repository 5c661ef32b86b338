import Phrasebook.Diagnostic
import Phrasebook.Diagnostic.Log
import Phrasebook.Document

/-!
# Phrasebook.Diagnostic.Sink

The sink of a check: what has been reported and logged so far, in order.

A `Check` is a computation that may add to the sink.  Nothing that has been added is changed or
removed.
-/

namespace Phrasebook

/-- The diagnostics and log events of one document, with what is needed to locate more of them. -/
structure Sink where
  fileId : String
  index : Text.LineIndex
  diagnostics : List Diagnostic
  log : List LogEvent

/-- The sink of a text about which nothing has been said yet. -/
def Sink.ofString (text fileId : String) : Sink := ⟨fileId, .ofString text, [], []⟩

/-- A computation that may report and log. -/
abbrev Check := StateM Sink

/-- Reports a problem at a place. -/
def reportAt (span : Span) (problem : Problem) : Check Unit :=
  modify fun sink =>
    { sink with
      diagnostics := sink.diagnostics ++ [.locate sink.fileId sink.index span problem] }

/-- Reports a problem at a node. -/
def reportNode (node : Node) (problem : Problem) : Check Unit := reportAt node.span problem

/-- Reports a problem at the name of a property. -/
def reportName (property : Property) (problem : Problem) : Check Unit :=
  reportAt property.nameSpan problem

/-- Logs an event. -/
def logEvent (event : LogEvent) : Check Unit :=
  modify fun sink => { sink with log := sink.log ++ [event] }

/-- The text of a node, as it stands in the document. -/
def textOf (node : Node) : Check String := do
  let sink ← get
  pure (String.ofList (sink.index.slice node.span.offset node.span.length))

/-- Runs a check on each item and keeps the results that there are. -/
def collect {α β : Type} (check : α → Check (Option β)) : List α → Check (List β)
  | [] => pure []
  | item :: rest => do
    let result ← check item
    let results ← collect check rest
    pure (result.toList ++ results)

/-- Runs a check on each item. -/
def forEach {α : Type} (check : α → Check Unit) : List α → Check Unit
  | [] => pure ()
  | item :: rest => do
    check item
    forEach check rest

end Phrasebook

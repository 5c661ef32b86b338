import Phrasebook.Diagnostic.Sink

/-!
# Phrasebook.Proofs.Additive

Checks that only add to the sink.

A check is *additive* when what it returns and what it adds depend on the text alone, and not on
what has been said about the text before.  For such a check there are three parts of what it does on
its own:

* `returned` — its result;
* `reported` — the diagnostics that it adds;
* `logged` — the log events that it adds.

Additive checks are closed under the operations that checks are built from, and the three parts of a
composed check are composed from those of its parts (`reported_bind`, `reported_collect`).
-/

namespace Phrasebook

variable {α β : Type}

/-! ## sinks -/

namespace Sink

/-- The sink of the same text about which nothing has been said yet. -/
def cleared (s : Sink) : Sink := { s with diagnostics := [], log := [] }

/-- The sink with more said about its text. -/
def extend (s : Sink) (diagnostics : List Diagnostic) (log : List LogEvent) : Sink :=
  { s with diagnostics := s.diagnostics ++ diagnostics, log := s.log ++ log }

/-- The diagnostic of a problem at a place in the text of a sink. -/
def locate (s : Sink) (span : Span) (problem : Problem) : Diagnostic :=
  .locate s.fileId s.index span problem

@[simp] theorem diagnostics_extend (s : Sink) (ds : List Diagnostic) (es : List LogEvent) :
    (s.extend ds es).diagnostics = s.diagnostics ++ ds := rfl

@[simp] theorem locate_extend (s : Sink) (ds : List Diagnostic) (es : List LogEvent) (span : Span)
    (problem : Problem) : (s.extend ds es).locate span problem = s.locate span problem := rfl

@[simp] theorem log_extend (s : Sink) (ds : List Diagnostic) (es : List LogEvent) :
    (s.extend ds es).log = s.log ++ es := rfl

@[simp] theorem code_locate (s : Sink) (span : Span) (problem : Problem) :
    (s.locate span problem).code = problem.code := rfl

@[simp] theorem severity_locate (s : Sink) (span : Span) (problem : Problem) :
    (s.locate span problem).severity = problem.code.severity := rfl

@[simp] theorem span_locate (s : Sink) (span : Span) (problem : Problem) :
    (s.locate span problem).span = span := rfl

@[simp] theorem diagnostics_ofString (text fileId : String) :
    (ofString text fileId).diagnostics = [] := rfl

@[simp] theorem log_ofString (text fileId : String) : (ofString text fileId).log = [] := rfl

@[simp] theorem extend_nil (s : Sink) : s.extend [] [] = s := by
  simp [extend]

@[simp] theorem extend_extend (s : Sink) (ds ds' : List Diagnostic) (es es' : List LogEvent) :
    (s.extend ds es).extend ds' es' = s.extend (ds ++ ds') (es ++ es') := by
  simp [extend]

end Sink

/-! ## what a check does on its own -/

/-- What a check returns, started on the text of a sink before anything has been said. -/
def returned (check : Check α) (sink : Sink) : α := (check.run sink.cleared).1

/-- What a check reports, started on the text of a sink before anything has been said. -/
def reported (check : Check α) (sink : Sink) : List Diagnostic :=
  (check.run sink.cleared).2.diagnostics

/-- What a check logs, started on the text of a sink before anything has been said. -/
def logged (check : Check α) (sink : Sink) : List LogEvent := (check.run sink.cleared).2.log

/-- A check that, whatever has been said before, returns what it returns on its own and adds what it
adds on its own behind it. -/
def Additive (check : Check α) : Prop :=
  ∀ sink : Sink, check.run sink =
    (returned check sink, sink.extend (reported check sink) (logged check sink))

section extend

variable (check : Check α) (s : Sink) (ds : List Diagnostic) (es : List LogEvent)

@[simp] theorem returned_extend : returned check (s.extend ds es) = returned check s := rfl

@[simp] theorem reported_extend : reported check (s.extend ds es) = reported check s := rfl

@[simp] theorem logged_extend : logged check (s.extend ds es) = logged check s := rfl

end extend

/-! ## the operations -/

@[simp] theorem run_pure (a : α) (s : Sink) : (pure a : Check α).run s = (a, s) := rfl

@[simp] theorem run_get (s : Sink) : (get : Check Sink).run s = (s, s) := rfl

@[simp] theorem run_reportAt (span : Span) (problem : Problem) (s : Sink) :
    (reportAt span problem).run s = ((), s.extend [s.locate span problem] []) := by
  simp [reportAt, Sink.extend, Sink.locate]
  rfl

@[simp] theorem run_reportNode (node : Node) (problem : Problem) (s : Sink) :
    (reportNode node problem).run s = ((), s.extend [s.locate node.span problem] []) :=
  run_reportAt node.span problem s

@[simp] theorem run_reportName (property : Property) (problem : Problem) (s : Sink) :
    (reportName property problem).run s = ((), s.extend [s.locate property.nameSpan problem] []) :=
  run_reportAt property.nameSpan problem s

@[simp] theorem run_logEvent (event : LogEvent) (s : Sink) :
    (logEvent event).run s = ((), s.extend [] [event]) := by
  simp [logEvent, Sink.extend]
  rfl

/-- A check composed of two runs the first and then the second. -/
theorem run_bind (check : Check α) (next : α → Check β) (sink : Sink) :
    (check >>= next).run sink = (next (check.run sink).1).run (check.run sink).2 := rfl

section of_run

variable {check : Check α} {value : Sink → α} {ds : Sink → List Diagnostic}
  {es : Sink → List LogEvent} (h : ∀ s : Sink, check.run s = (value s, s.extend (ds s) (es s)))

include h

/-- What a check does on its own, read off what it does to every sink. -/
theorem parts_of_run (s : Sink) :
    returned check s = value s.cleared ∧ reported check s = ds s.cleared ∧
      logged check s = es s.cleared := by
  rw [returned, reported, logged, h]
  exact ⟨rfl, rfl, rfl⟩

/-- A check is additive if it adds to every sink, and what it returns and adds is the same before
anything has been said. -/
theorem Additive.of_run (hv : ∀ s : Sink, value s.cleared = value s)
    (hds : ∀ s : Sink, ds s.cleared = ds s) (hes : ∀ s : Sink, es s.cleared = es s) :
    Additive check := by
  intro s
  obtain ⟨hret, hrep, hlog⟩ := parts_of_run h s
  rw [hret, hrep, hlog, hv, hds, hes, h s]

end of_run

theorem additive_pure (a : α) : Additive (pure a : Check α) :=
  Additive.of_run (fun s => by rw [run_pure, Sink.extend_nil]) (fun _ => rfl) (fun _ => rfl)
    fun _ => rfl

@[simp] theorem returned_pure (a : α) (s : Sink) : returned (pure a : Check α) s = a := rfl

@[simp] theorem reported_pure (a : α) (s : Sink) : reported (pure a : Check α) s = [] := rfl

@[simp] theorem logged_pure (a : α) (s : Sink) : logged (pure a : Check α) s = [] := rfl

theorem additive_reportAt (span : Span) (problem : Problem) : Additive (reportAt span problem) :=
  Additive.of_run (run_reportAt span problem) (fun _ => rfl) (fun _ => rfl) fun _ => rfl

theorem additive_reportNode (node : Node) (problem : Problem) :
    Additive (reportNode node problem) :=
  additive_reportAt node.span problem

@[simp] theorem reported_reportNode (node : Node) (problem : Problem) (s : Sink) :
    reported (reportNode node problem) s = [s.locate node.span problem] := rfl

theorem additive_reportName (property : Property) (problem : Problem) :
    Additive (reportName property problem) :=
  additive_reportAt property.nameSpan problem

@[simp] theorem reported_reportName (property : Property) (problem : Problem) (s : Sink) :
    reported (reportName property problem) s = [s.locate property.nameSpan problem] := rfl

@[simp] theorem reported_logEvent (event : LogEvent) (s : Sink) :
    reported (logEvent event) s = [] := rfl

@[simp] theorem logged_reportNode (node : Node) (problem : Problem) (s : Sink) :
    logged (reportNode node problem) s = [] := rfl

@[simp] theorem logged_reportName (property : Property) (problem : Problem) (s : Sink) :
    logged (reportName property problem) s = [] := rfl

theorem additive_logEvent (event : LogEvent) : Additive (logEvent event) :=
  Additive.of_run (run_logEvent event) (fun _ => rfl) (fun _ => rfl) fun _ => rfl

/-- The text of a node is looked up in the text of the sink, and nothing is added. -/
theorem additive_textOf (node : Node) : Additive (textOf node) := by
  intro s
  show (_, s) = (_, s.extend [] [])
  rw [Sink.extend_nil]
  rfl

/-! ## composition -/

section bind

variable {check : Check α} {next : α → Check β}

/-- What a composed check does to a sink, from what its two parts do on their own. -/
theorem Additive.run_bind (hc : Additive check) (hn : ∀ a, Additive (next a)) (s : Sink) :
    (check >>= next).run s =
      (returned (next (returned check s)) s,
        s.extend (reported check s ++ reported (next (returned check s)) s)
          (logged check s ++ logged (next (returned check s)) s)) := by
  rw [Phrasebook.run_bind, hc s, hn]
  simp

theorem returned_bind (hc : Additive check) (hn : ∀ a, Additive (next a)) (s : Sink) :
    returned (check >>= next) s = returned (next (returned check s)) s := by
  rw [returned, hc.run_bind hn s.cleared]
  rfl

theorem reported_bind (hc : Additive check) (hn : ∀ a, Additive (next a)) (s : Sink) :
    reported (check >>= next) s = reported check s ++ reported (next (returned check s)) s := by
  rw [reported, hc.run_bind hn s.cleared]
  rfl

theorem logged_bind (hc : Additive check) (hn : ∀ a, Additive (next a)) (s : Sink) :
    logged (check >>= next) s = logged check s ++ logged (next (returned check s)) s := by
  rw [logged, hc.run_bind hn s.cleared]
  rfl

theorem Additive.bind (hc : Additive check) (hn : ∀ a, Additive (next a)) :
    Additive (check >>= next) := by
  intro s
  rw [hc.run_bind hn, returned_bind hc hn, reported_bind hc hn, logged_bind hc hn]

/-- A check that ends where its first part gives nothing is additive if it is in all other cases. -/
theorem additive_of_option {next : Option α → Check (Option β)} (hnone : next none = pure none)
    (hsome : ∀ a, Additive (next (some a))) (a? : Option α) : Additive (next a?) := by
  cases a? with
  | none =>
      rw [hnone]
      exact additive_pure none
  | some a => exact hsome a

section option

variable {check : Check (Option α)} {next : Option α → Check (Option β)} (hc : Additive check)
  (hnone : next none = pure none) (hsome : ∀ a, Additive (next (some a)))

include hc hnone hsome

theorem additive_bind_option : Additive (check >>= next) := hc.bind (additive_of_option hnone hsome)

theorem returned_bind_option (s : Sink) :
    returned (check >>= next) s = (returned check s).bind fun a => returned (next (some a)) s := by
  rw [returned_bind hc (additive_of_option hnone hsome)]
  cases returned check s with
  | none => rw [hnone, returned_pure, Option.bind_none]
  | some a => rfl

/-- A check that ends where its first part gives nothing reports what its first part reports, and
then what it reports about what this part gives. -/
theorem reported_bind_option (s : Sink) :
    reported (check >>= next) s =
      reported check s ++ (returned check s).elim [] fun a => reported (next (some a)) s := by
  rw [reported_bind hc (additive_of_option hnone hsome)]
  cases returned check s with
  | none => rw [hnone, reported_pure, Option.elim_none]
  | some a => rfl

theorem logged_bind_option (s : Sink) :
    logged (check >>= next) s =
      logged check s ++ (returned check s).elim [] fun a => logged (next (some a)) s := by
  rw [logged_bind hc (additive_of_option hnone hsome)]
  cases returned check s with
  | none => rw [hnone, logged_pure, Option.elim_none]
  | some a => rfl

end option

end bind

/-! ## lists of checks -/

theorem additive_collect {check : α → Check (Option β)}
    (h : ∀ a, Additive (check a)) (items : List α) : Additive (collect check items) := by
  induction items with
  | nil => exact additive_pure []
  | cons item rest ih => exact (h item).bind fun _ => ih.bind fun _ => additive_pure _

/-- Collecting returns the results of the single checks that have one, in order. -/
theorem returned_collect {check : α → Check (Option β)} (h : ∀ a, Additive (check a))
    (items : List α) (s : Sink) :
    returned (collect check items) s = items.filterMap fun item => returned (check item) s := by
  induction items with
  | nil => rfl
  | cons item rest ih =>
      have hrest := additive_collect h rest
      rw [collect, returned_bind (h item) fun _ => hrest.bind fun _ => additive_pure _,
        returned_bind hrest fun _ => additive_pure _, returned_pure, ih, List.filterMap_cons]
      cases returned (check item) s <;> rfl

/-- Collecting reports what the single checks report, in order. -/
theorem reported_collect {check : α → Check (Option β)} (h : ∀ a, Additive (check a))
    (items : List α) (s : Sink) :
    reported (collect check items) s = items.flatMap fun item => reported (check item) s := by
  induction items with
  | nil => rfl
  | cons item rest ih =>
      have hrest := additive_collect h rest
      rw [collect, reported_bind (h item) fun _ => hrest.bind fun _ => additive_pure _,
        reported_bind hrest fun _ => additive_pure _, reported_pure, ih, List.append_nil,
        List.flatMap_cons]

/-- Collecting logs what the single checks log, in order. -/
theorem logged_collect {check : α → Check (Option β)} (h : ∀ a, Additive (check a))
    (items : List α) (s : Sink) :
    logged (collect check items) s = items.flatMap fun item => logged (check item) s := by
  induction items with
  | nil => rfl
  | cons item rest ih =>
      have hrest := additive_collect h rest
      rw [collect, logged_bind (h item) fun _ => hrest.bind fun _ => additive_pure _,
        logged_bind hrest fun _ => additive_pure _, logged_pure, ih, List.append_nil,
        List.flatMap_cons]

/-- Checking each item reports and logs what the single checks do, in order. -/
theorem run_forEach {check : α → Check Unit} (h : ∀ a, Additive (check a))
    (items : List α) (s : Sink) :
    (forEach check items).run s =
      ((), s.extend (items.flatMap fun item => reported (check item) s)
        (items.flatMap fun item => logged (check item) s)) := by
  induction items generalizing s with
  | nil => rw [forEach, run_pure, List.flatMap_nil, List.flatMap_nil, Sink.extend_nil]
  | cons item rest ih =>
      rw [forEach, run_bind, h item s, ih, Sink.extend_extend, List.flatMap_cons, List.flatMap_cons]
      rfl

theorem reported_forEach {check : α → Check Unit} (h : ∀ a, Additive (check a)) (items : List α)
    (s : Sink) : reported (forEach check items) s = items.flatMap fun item =>
      reported (check item) s :=
  (parts_of_run (run_forEach h items) s).2.1

/-- Checking each item logs nothing if no single check does. -/
theorem logged_forEach_eq_nil {check : α → Check Unit} (h : ∀ a, Additive (check a)) {s : Sink}
    (hlog : ∀ a, logged (check a) s = []) (items : List α) :
    logged (forEach check items) s = [] := by
  rw [(parts_of_run (run_forEach h items) s).2.2]
  exact List.flatMap_eq_nil_iff.2 fun item _ => hlog item

/-- Reporting each item at its node gives one diagnostic for each item. -/
theorem reported_forEach_reportNode (node : α → Node) (problem : α → Problem)
    (items : List α) (s : Sink) :
    reported (forEach (fun item => reportNode (node item) (problem item)) items) s =
      items.map fun item => s.locate (node item).span (problem item) := by
  rw [reported_forEach fun _ => additive_reportNode _ _, List.map_eq_flatMap]
  rfl

theorem additive_forEach {check : α → Check Unit} (h : ∀ a, Additive (check a)) (items : List α) :
    Additive (forEach check items) :=
  Additive.of_run (run_forEach h items) (fun _ => rfl) (fun _ => rfl) fun _ => rfl

end Phrasebook

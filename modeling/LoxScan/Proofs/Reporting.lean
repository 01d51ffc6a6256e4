import LoxScan.Cli.Run
import LoxScan.Proofs.Extent
import LoxScan.Proofs.FirstError

/-! # What a run on a text reports

A run on one text prints its tokens if there is no error, and otherwise shows a diagnostic for
each error that it reports, which is the first one or every one.  Both can be said without the
run: the tokens are those that `scan` gives (`printed_ofSource`), and the reported errors are
the first of the errors among the items, or all of them (`reportedErrors_eq`), in the order in
which they stand in the text (`reportedErrors_inSourceOrder`).  What the caller sees of a whole
run is the transcript of what its scripts, or the input, come to (`run_eq_transcript`).

Everything else that a run writes is log.  No event is a warning or graver, so a log that
starts at warnings, or later, stays empty, and the diagnostics are all that is shown
(`renderAll_notices_of_isQuiet`). -/

namespace LoxScan

/-- The errors that a run on a text reports: all those of `scanAll`, or the one at which `scan`
stops. -/
def reportedErrors (allErrors : Bool) (source : String) : List ScanError :=
  if allErrors then
    match scanAll source with
    | .ok _ => []
    | .error errors => errors
  else
    match scan source with
    | .ok _ => []
    | .error e => [e]

/-- The texts of the diagnostics for the reported errors, each with the source. -/
def diagnostics (allErrors coloured : Bool) (source : String) : List String :=
  (reportedErrors allErrors source).map fun e => Diagnostic.render coloured ⟨e, some source⟩

/-- The tokens of a text, each on a line of its own; nothing if the text is malformed. -/
def printedTokens (source : String) : String :=
  match scan source with
  | .ok tokens => String.join (tokens.map fun t => t.display ++ "\n")
  | .error _ => ""

/-- The errors stand at places of the text, each behind the one before it. -/
def InSourceOrder (source : String) (errors : List ScanError) : Prop :=
  ∃ places : List Extent, places.Sublist (extents source) ∧
    places.Pairwise (fun e f => e.stop ≤ f.start) ∧
    places.map Extent.item? = errors.map fun e => some (.error e)

/-- Nothing below a warning is logged. -/
def Threshold.isQuiet : Threshold → Bool
  | some least => Level.warn.gravity ≤ least.gravity
  | none => true

variable {source : String} {ts : List Token}

/-! ### Reported errors -/

/-- **The reported errors are those among the items**, or the first of them. -/
theorem reportedErrors_eq (allErrors : Bool) (source : String) :
    reportedErrors allErrors source =
      if allErrors then (items source).filterMap Item.error?
      else ((items source).filterMap Item.error?).take 1 := by
  unfold reportedErrors
  rcases items_eq_map_or_eq_append source with ⟨ts, hitems⟩ | ⟨ts, e, after, hitems⟩
  · rw [scan_eq_ok_iff.mpr hitems, scanAll_eq_ok_iff.mpr hitems, hitems, filterMap_error?_map]
    rfl
  · obtain ⟨herrors, hall⟩ := scanAll_of_items_eq_append hitems
    have hscan : scan source = .error e := by
      rw [scan_eq_stopAtError, hitems, stopAtError_append]
    rw [hscan, hall, herrors]
    rfl

/-- Of a well-formed text no error is reported. -/
theorem reportedErrors_of_scan_ok (h : scan source = .ok ts) (allErrors : Bool) :
    reportedErrors allErrors source = [] := by
  rw [reportedErrors_eq, scan_eq_ok_iff.mp h, filterMap_error?_map]
  cases allErrors <;> rfl

/-- Of a malformed text the error at which `scan` stops is reported first. -/
theorem exists_reportedErrors_eq_cons {e : ScanError} (h : scan source = .error e)
    (allErrors : Bool) : ∃ later, reportedErrors allErrors source = e :: later := by
  rcases items_eq_map_or_eq_append source with ⟨ts, hitems⟩ | ⟨ts, first, after, hitems⟩
  · rw [scan_eq_ok_iff.mpr hitems] at h
    cases h
  · rw [scan_eq_stopAtError, hitems, stopAtError_append] at h
    cases h
    rw [reportedErrors_eq, (scanAll_of_items_eq_append hitems).1]
    cases allErrors with
    | false => exact ⟨[], rfl⟩
    | true => exact ⟨_, rfl⟩

/-- **What is reported first is what is reported alone.** -/
theorem exists_reportedErrors_eq_append (source : String) :
    ∃ later, reportedErrors true source = reportedErrors false source ++ later := by
  rw [reportedErrors_eq, reportedErrors_eq]
  exact ⟨_, (List.take_append_drop 1 _).symm⟩

/-- The errors that extents yield are what some of the extents yield. -/
theorem sublist_map_item? (es : List Extent) :
    (((es.filterMap Extent.item?).filterMap Item.error?).map fun e => some (.error e)).Sublist
      (es.map Extent.item?) := by
  induction es with
  | nil => exact .slnil
  | cons e es ih =>
      rw [List.map_cons, List.filterMap_cons]
      cases e.item? with
      | none => exact ih.cons _
      | some i =>
          cases i with
          | token t => exact ih.cons _
          | error found => exact ih.cons_cons _

/-- **Errors are reported in the order of the source.** -/
theorem reportedErrors_inSourceOrder (allErrors : Bool) (source : String) :
    InSourceOrder source (reportedErrors allErrors source) := by
  have hall : reportedErrors true source =
      ((extents source).filterMap Extent.item?).filterMap Item.error? := by
    rw [reportedErrors_eq, items_eq_filterMap_extents, List.filterMap_append]
    exact List.append_nil _
  have hincluded : (reportedErrors allErrors source).Sublist (reportedErrors true source) := by
    obtain ⟨later, hlater⟩ := exists_reportedErrors_eq_append source
    cases allErrors with
    | false => exact hlater ▸ List.sublist_append_left _ _
    | true => exact .refl _
  have hitems := (hincluded.map fun e => some (Item.error e)).trans (hall ▸ sublist_map_item? _)
  obtain ⟨places, hplaces, hmap⟩ := List.sublist_map_iff.mp hitems
  have hconsecutive := (isLayout_extents source).consecutive.pairwise.1
  exact ⟨places, hplaces, hconsecutive.sublist hplaces, hmap.symm⟩

/-- Every error that is reported is among the items. -/
theorem error_mem_items_of_mem_reportedErrors {allErrors : Bool} {e : ScanError}
    (h : e ∈ reportedErrors allErrors source) : .error e ∈ items source := by
  rw [reportedErrors_eq] at h
  have hmem : e ∈ (items source).filterMap Item.error? := by
    cases allErrors with
    | false => exact List.mem_of_mem_take h
    | true => exact h
  obtain ⟨i, hi, hitem⟩ := List.mem_filterMap.mp hmem
  cases i with
  | token t => cases hitem
  | error e' =>
      cases hitem
      exact hi

/-- Every error that `scanAll` gives is among the items. -/
theorem error_mem_items {errors : List ScanError} (h : scanAll source = .error errors)
    {e : ScanError} (he : e ∈ errors) : .error e ∈ items source := by
  have hreported : reportedErrors true source = errors := by
    rw [reportedErrors, h]
    rfl
  exact error_mem_items_of_mem_reportedErrors (hreported ▸ he)

/-! ### The report of a run -/

theorem errors_ofSource (allErrors : Bool) (source : String) :
    (Report.ofSource allErrors source).errors = reportedErrors allErrors source := by
  unfold Report.ofSource reportedErrors
  cases allErrors with
  | false => cases scan source <;> rfl
  | true => cases scanAll source <;> rfl

/-- A run on a text fails exactly if an error is reported, and then for the text. -/
theorem exitCode_ofSource (allErrors : Bool) (source : String) :
    (Report.ofSource allErrors source).exitCode =
      if (reportedErrors allErrors source).isEmpty then .success else .data := by
  rw [Report.exitCode, Report.failure?, errors_ofSource]
  cases reportedErrors allErrors source <;> rfl

/-- **What is printed does not depend on how many errors are reported.** -/
theorem printed_ofSource (allErrors : Bool) (source : String) :
    (Report.ofSource allErrors source).printed = printedTokens source := by
  unfold Report.ofSource printedTokens
  cases allErrors with
  | false => cases scan source <;> rfl
  | true =>
      cases hscan : scan source with
      | ok ts =>
          rw [scanAll_eq_ok_iff.mpr (scan_eq_ok_iff.mp hscan)]
          rfl
      | error e =>
          cases hall : scanAll source with
          | ok ts =>
              rw [scan_eq_ok_iff.mpr (scanAll_eq_ok_iff.mp hall)] at hscan
              cases hscan
          | error errors => rfl

/-! ### What the caller sees -/

/-- What the caller sees of an outcome. -/
def Outcome.transcript (settings : Settings) (time : String) (o : Outcome) : Transcript :=
  ⟨o.code, o.printed, Notice.renderAll settings time o.notices⟩

@[simp] theorem Outcome.code_transcript (settings : Settings) (time : String) (o : Outcome) :
    (o.transcript settings time).code = o.code := rfl

@[simp] theorem Outcome.stdout_transcript (settings : Settings) (time : String) (o : Outcome) :
    (o.transcript settings time).stdout = o.printed := rfl

@[simp] theorem Outcome.stderr_transcript (settings : Settings) (time : String) (o : Outcome) :
    (o.transcript settings time).stderr = Notice.renderAll settings time o.notices := rfl

/-- A run that is asked to scan shows what the scripts, or the input, come to. -/
theorem run_eq_transcript {words : List String} {env : Environment} {settings : Settings}
    {scripts : List String} (hwords : Invocation.ofWords words env = .ok (.scan settings scripts))
    (read : String → Except ReadError (List UInt8)) (input : List UInt8) (time : String) :
    run words env read input time =
      (Outcome.ofScripts settings.allErrors scripts read input).transcript settings time := by
  rw [run, hwords]
  rfl

/-! ### A quiet log -/

variable {settings : Settings}

/-- No event is as grave as a warning. -/
theorem Event.gravity_lt_warn (e : Event) : e.level.gravity < Level.warn.gravity := by
  cases e <;> simp [Event.level, Level.gravity]

theorem render_event_of_isQuiet (h : settings.threshold.isQuiet = true) (time : String)
    (e : Event) : (Notice.event e).render settings time = "" := by
  have hlow := e.gravity_lt_warn
  have hno : settings.threshold.admits e.level = false := by
    cases hthreshold : settings.threshold with
    | none => rfl
    | some least =>
        rw [hthreshold, Threshold.isQuiet, decide_eq_true_eq] at h
        exact decide_eq_false (by omega)
  rw [Notice.render, hno]
  rfl

theorem renderAll_append (settings : Settings) (time : String) (as bs : List Notice) :
    Notice.renderAll settings time (as ++ bs) =
      Notice.renderAll settings time as ++ Notice.renderAll settings time bs := by
  rw [Notice.renderAll, List.map_append, String.join_append]
  rfl

theorem renderAll_message (settings : Settings) (time text : String) :
    Notice.renderAll settings time [.message text] = text := by
  rw [Notice.renderAll, List.map_singleton, String.join_cons, String.join_nil, String.append_empty]
  rfl

/-- Of events nothing shows. -/
theorem renderAll_events_of_isQuiet (h : settings.threshold.isQuiet = true) (time : String)
    (events : List Event) : Notice.renderAll settings time (events.map .event) = "" := by
  induction events with
  | nil => rfl
  | cons e events ih =>
      rw [Notice.renderAll] at ih ⊢
      rw [List.map_cons, List.map_cons, String.join_cons, ih, render_event_of_isQuiet h]
      rfl

/-- An event in front of other notices does not show. -/
theorem renderAll_event_cons_of_isQuiet (h : settings.threshold.isQuiet = true) (time : String)
    (e : Event) (notices : List Notice) :
    Notice.renderAll settings time (.event e :: notices) =
      Notice.renderAll settings time notices := by
  rw [← List.singleton_append, renderAll_append, ← List.map_singleton,
    renderAll_events_of_isQuiet h, String.empty_append]

/-- **With a quiet log a run shows the diagnostics and nothing else.** -/
theorem renderAll_notices_of_isQuiet (h : settings.threshold.isQuiet = true) (time : String)
    (allErrors : Bool) (source : String) :
    Notice.renderAll settings time ((Report.ofSource allErrors source).notices source) =
      String.join (diagnostics allErrors settings.colouredDiagnostics source) := by
  rw [Report.notices, renderAll_append, renderAll_events_of_isQuiet h, String.empty_append,
    errors_ofSource, Notice.renderAll, diagnostics, List.map_map]
  rfl

/-- A diagnostic always says something. -/
theorem render_ne_empty (coloured : Bool) (d : Diagnostic) : d.render coloured ≠ "" := by
  intro h
  have hlist := congrArg String.toList h
  simp [Diagnostic.render, Diagnostic.styled, Diagnostic.header, Styled.render_cons,
    Span.render, Span.plain] at hlist

/-- So with a quiet log something is shown about a malformed text. -/
theorem join_diagnostics_ne_empty {e : ScanError} (h : scan source = .error e)
    (allErrors coloured : Bool) : String.join (diagnostics allErrors coloured source) ≠ "" := by
  obtain ⟨later, herrors⟩ := exists_reportedErrors_eq_cons h allErrors
  rw [diagnostics, herrors, List.map_cons, String.join_cons]
  intro hempty
  exact render_ne_empty coloured _ (String.append_eq_empty_iff.mp hempty).1

end LoxScan

import Mathlib.Data.List.Nodup
import LoxScan.Cli.Run

/-! # One more switch on the command line

A command line asks for a scan exactly if all it names are switches, none of them twice, and
scripts with names (`read_eq_scan_iff`).  So a switch that is not among them may be put anywhere
in front of a lone double dash, and what is asked for is the same but for that switch.  With the
switch against colours all settings but the two about colours stay (`ofWords_insert_noColor`). -/

namespace LoxScan

namespace Argument

/-- What an argument may be where a scan is asked for. -/
inductive Scans : Argument → Prop
  | switch (s : Switch) : Scans (.flag (.switch s))
  | script {path : String} (h : path ≠ "") : Scans (.script path)

@[simp] theorem scans_script_iff {path : String} : Scans (.script path) ↔ path ≠ "" :=
  ⟨fun h => by cases h; assumption, .script⟩

@[simp] theorem not_scans_help : ¬ Scans (.flag .help) := nofun
@[simp] theorem not_scans_version : ¬ Scans (.flag .version) := nofun
@[simp] theorem not_scans_unknownFlag (written : String) : ¬ Scans (.unknownFlag written) := nofun

def switch? : Argument → Option Switch
  | flag (.switch s) => some s
  | _ => none

def script? : Argument → Option String
  | script path => some path
  | _ => none

theorem not_mem_filterMap_switch? {arguments : List Argument} {s : Switch}
    (h : .flag (.switch s) ∉ arguments) : s ∉ arguments.filterMap switch? := by
  rw [List.mem_filterMap]
  rintro ⟨a, ha, hs⟩
  unfold switch? at hs
  split at hs
  · cases hs
    exact h ha
  · cases hs

/-- The words in front of a lone double dash say one after the other what they say. -/
theorem ofWords_append {before : List String} (h : "--" ∉ before) (after : List String) :
    ofWords (before ++ after) = before.flatMap ofWord ++ ofWords after := by
  induction before with
  | nil => rfl
  | cons word before ih =>
      rw [List.mem_cons, not_or] at h
      rw [List.cons_append, ofWords, if_neg (Ne.symm h.1), ih h.2, List.flatMap_cons,
        List.append_assoc]

end Argument

namespace Options

/-- The options that arguments add to others, if they only name switches and scripts. -/
def add (options : Options) (arguments : List Argument) : Options where
  switches := (arguments.filterMap Argument.switch?).reverse ++ options.switches
  scripts := options.scripts ++ arguments.filterMap Argument.script?

theorem add_nil (options : Options) : options.add [] = options := by
  simp [add]

theorem add_switch (options : Options) (s : Switch) (arguments : List Argument) :
    options.add (.flag (.switch s) :: arguments) =
      Options.add ⟨s :: options.switches, options.scripts⟩ arguments := by
  have hswitch : (Argument.flag (.switch s)).switch? = some s := rfl
  have hscript : (Argument.flag (.switch s)).script? = none := rfl
  simp [add, hswitch, hscript]

theorem add_script (options : Options) (path : String) (arguments : List Argument) :
    options.add (.script path :: arguments) =
      Options.add ⟨options.switches, options.scripts ++ [path]⟩ arguments := by
  have hswitch : (Argument.script path).switch? = none := rfl
  have hscript : (Argument.script path).script? = some path := rfl
  simp [add, hswitch, hscript]

end Options

namespace Request

variable {switches : List Switch} {scripts : List String} {options : Options}

/-- **When arguments ask for a scan, and of what.**  No switch may be given twice, neither among
the arguments nor in front of them. -/
theorem read_eq_scan_iff {arguments : List Argument} (hnodup : switches.Nodup) :
    read ⟨switches, scripts⟩ arguments = .ok (.scan options) ↔
      (∀ a ∈ arguments, a.Scans) ∧ (Options.add ⟨switches, scripts⟩ arguments).switches.Nodup ∧
        options = Options.add ⟨switches, scripts⟩ arguments := by
  induction arguments generalizing switches scripts with
  | nil => simp [read, Options.add_nil, hnodup, eq_comm]
  | cons a arguments ih =>
      cases a with
      | flag f =>
          cases f with
          | switch s =>
              rw [Options.add_switch, read]
              by_cases hs : s ∈ switches
              · have hdouble : ¬ (Options.add ⟨s :: switches, scripts⟩ arguments).switches.Nodup :=
                  fun h => (List.nodup_cons.mp (List.nodup_append.mp h).2.1).1 hs
                simp [hs, hdouble]
              · rw [if_neg hs, ih (List.nodup_cons.mpr ⟨hs, hnodup⟩), List.forall_mem_cons,
                  and_iff_right (Argument.Scans.switch s)]
          | help => simp [read]
          | version => simp [read]
      | unknownFlag written => simp [read]
      | script path =>
          rw [Options.add_script, read]
          by_cases hpath : path = ""
          · simp [hpath]
          · rw [if_neg hpath, ih hnodup, List.forall_mem_cons,
              and_iff_right (Argument.scans_script_iff.mpr hpath)]

/-- **One more switch,** if it is not among the arguments, leaves a scan of the same scripts. -/
theorem exists_read_insert_switch {before after : List Argument} {s : Switch}
    (h : read ⟨[], []⟩ (before ++ after) = .ok (.scan options))
    (hnew : .flag (.switch s) ∉ before ++ after) :
    ∃ options', read ⟨[], []⟩ (before ++ .flag (.switch s) :: after) = .ok (.scan options') ∧
      options'.scripts = options.scripts ∧
      ∀ t, t ∈ options'.switches ↔ t = s ∨ t ∈ options.switches := by
  have hswitch : (Argument.flag (.switch s)).switch? = some s := rfl
  have hscript : (Argument.flag (.switch s)).script? = none := rfl
  obtain ⟨hscans, hnodup, rfl⟩ := (read_eq_scan_iff List.nodup_nil).mp h
  refine ⟨_, (read_eq_scan_iff List.nodup_nil).mpr ⟨?_, ?_, rfl⟩, ?_, fun t => ?_⟩
  · simp only [List.forall_mem_append, List.forall_mem_cons] at hscans ⊢
    exact ⟨hscans.1, .switch s, hscans.2⟩
  · have hold := Argument.not_mem_filterMap_switch? hnew
    simp only [Options.add, List.append_nil, List.nodup_reverse] at hnodup ⊢
    rw [List.filterMap_append, List.filterMap_cons_some hswitch, List.nodup_middle,
      ← List.filterMap_append]
    exact List.nodup_cons.mpr ⟨hold, hnodup⟩
  · simp [Options.add, hscript]
  · simp [Options.add, hswitch]
    grind

end Request

namespace Settings

/-- Only which switches are given decides about the settings, not where. -/
theorem isOn_congr {switches switches' : List Switch} {s : Switch}
    (h : s ∈ switches' ↔ s ∈ switches) (env : Environment) :
    isOn switches' env s = isOn switches env s := by
  simp only [isOn, h]

/-- A switch that is not given, and is not set to be on either, is off. -/
theorem eq_false_of_isOn {switches : List Switch} {env : Environment} {s : Switch} {b : Bool}
    (h : isOn switches env s = .ok b) (hgiven : s ∉ switches)
    (hset : env.value? s.variable ≠ some "true") : b = false := by
  rw [isOn, if_neg hgiven] at h
  split at h
  · cases h
    rfl
  · contradiction
  · cases h
    rfl
  · cases h

theorem ofSwitches_eq_ok_iff {switches : List Switch} {env : Environment} {settings : Settings} :
    ofSwitches switches env = .ok settings ↔ ∃ verbose noColor allErrors,
      isOn switches env .verbose = .ok verbose ∧ isOn switches env .noColor = .ok noColor ∧
      isOn switches env .allErrors = .ok allErrors ∧
      settings = ⟨allErrors, logThreshold env verbose, !noColor,
        !noColor && forcesColour env⟩ := by
  rw [ofSwitches]
  cases isOn switches env .verbose with
  | error e => simp [bind, Except.bind]
  | ok verbose =>
      cases isOn switches env .noColor with
      | error e => simp [bind, Except.bind]
      | ok noColor =>
          cases isOn switches env .allErrors with
          | error e => simp [bind, Except.bind]
          | ok allErrors => simp [bind, Except.bind, pure, Except.pure, eq_comm]

/-- The switch against colours turns both kinds of colours off, and nothing else. -/
theorem ofSwitches_noColor {switches switches' : List Switch} {env : Environment}
    {settings : Settings} (h : ofSwitches switches env = .ok settings)
    (hmem : ∀ s, s ∈ switches' ↔ s = .noColor ∨ s ∈ switches) :
    ofSwitches switches' env =
      .ok { settings with colouredLog := false, colouredDiagnostics := false } := by
  have hnoColor : isOn switches' env .noColor = .ok true := by
    rw [isOn, if_pos ((hmem _).mpr (.inl rfl))]
  have hverbose : isOn switches' env .verbose = isOn switches env .verbose :=
    isOn_congr (by simp [hmem]) env
  have hall : isOn switches' env .allErrors = isOn switches env .allErrors :=
    isOn_congr (by simp [hmem]) env
  obtain ⟨verbose, noColor, allErrors, hv, -, ha, rfl⟩ := ofSwitches_eq_ok_iff.mp h
  exact ofSwitches_eq_ok_iff.mpr
    ⟨verbose, true, allErrors, hverbose.trans hv, hnoColor, hall.trans ha, rfl⟩

end Settings

theorem Invocation.ofWords_eq_scan_iff {words : List String} {env : Environment}
    {settings : Settings} {scripts : List String} :
    ofWords words env = .ok (.scan settings scripts) ↔ ∃ options,
      Request.ofWords words = .ok (.scan options) ∧
      Settings.ofSwitches options.switches env = .ok settings ∧ scripts = options.scripts := by
  rw [ofWords]
  cases Request.ofWords words with
  | error e => simp [bind, Except.bind]
  | ok request =>
      cases request with
      | help | version => simp [bind, Except.bind, pure, Except.pure]
      | scan options =>
          cases hsettings : Settings.ofSwitches options.switches env with
          | error e => simp [bind, Except.bind, hsettings]
          | ok settings' => simp [bind, Except.bind, pure, Except.pure, hsettings, eq_comm]

/-- Diagnostics are coloured if the environment forces it and nothing is against it. -/
theorem Invocation.colouredDiagnostics_eq {words : List String} {env : Environment}
    {settings : Settings} {scripts : List String}
    (h : ofWords words env = .ok (.scan settings scripts))
    (hgiven : .flag (.switch .noColor) ∉ Argument.ofWords words)
    (hset : env.value? "LOX_NO_COLOR" ≠ some "true") :
    settings.colouredDiagnostics = Settings.forcesColour env := by
  obtain ⟨options, hrequest, hsettings, rfl⟩ := ofWords_eq_scan_iff.mp h
  obtain ⟨-, -, rfl⟩ := (Request.read_eq_scan_iff List.nodup_nil).mp hrequest
  obtain ⟨_, noColor, _, -, hon, -, rfl⟩ := Settings.ofSwitches_eq_ok_iff.mp hsettings
  have hswitch : .noColor ∉ (Options.add ⟨[], []⟩ (Argument.ofWords words)).switches := by
    rw [Options.add, List.append_nil, List.mem_reverse]
    exact Argument.not_mem_filterMap_switch? hgiven
  rw [Settings.eq_false_of_isOn hon hswitch hset]
  rfl

/-- **A run may be asked not to use colours:** with the switch against colours in front of any
word, the same scripts are scanned, and the settings differ in colours only. -/
theorem Invocation.ofWords_insert_noColor {before after : List String} {env : Environment}
    {settings : Settings} {scripts : List String}
    (h : ofWords (before ++ after) env = .ok (.scan settings scripts)) (hdash : "--" ∉ before)
    (hnew : .flag (.switch .noColor) ∉ Argument.ofWords (before ++ after)) :
    ofWords (before ++ "--no-color" :: after) env =
      .ok (.scan { settings with colouredLog := false, colouredDiagnostics := false } scripts) := by
  obtain ⟨options, hrequest, hsettings, rfl⟩ := ofWords_eq_scan_iff.mp h
  rw [Argument.ofWords_append hdash] at hnew
  rw [Request.ofWords, Argument.ofWords_append hdash] at hrequest
  obtain ⟨options', hread, hscripts, hmem⟩ := Request.exists_read_insert_switch hrequest hnew
  refine ofWords_eq_scan_iff.mpr
    ⟨options', ?_, Settings.ofSwitches_noColor hsettings hmem, hscripts.symm⟩
  rw [Request.ofWords, Argument.ofWords_append hdash]
  exact hread

end LoxScan

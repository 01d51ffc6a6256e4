import LoxScan.Scan

/-! # Stopping at the first error and going on

`scan` stops at the first error, `items` goes on behind it, and `scanAll` sorts what `items`
found.  Going on changes nothing before the error: step by step, stopping collects the
tokens that going on finds, on the same lines (`tokensFrom_eq_stopAtError`).  So a text that
has no error gives its items as tokens either way (`scan_eq_ok_iff`, `scanAll_eq_ok_iff`), and
otherwise the error at which `scan` stops is the first of those that `scanAll` reports
(`scan_agrees_with_scanAll`). -/

namespace LoxScan

/-- The tokens of a list of items, or the first error in it. -/
def stopAtError : List Item → Except ScanError (List Token)
  | [] => .ok []
  | .token t :: found => (stopAtError found).map (t :: ·)
  | .error e :: _ => .error e

/-! ### Lists of items -/

section Lists

variable {found : List Item}

/-- Items without an error are tokens. -/
theorem exists_eq_map_token (h : ∀ e, .error e ∉ found) :
    ∃ ts : List Token, found = ts.map .token := by
  induction found with
  | nil => exact ⟨[], rfl⟩
  | cons i is ih =>
      obtain ⟨ts, rfl⟩ := ih fun e he => h e (List.mem_cons_of_mem _ he)
      cases i with
      | token t => exact ⟨t :: ts, rfl⟩
      | error e => exact absurd List.mem_cons_self (h e)

/-- Items with an error are tokens up to the first one. -/
theorem exists_eq_append_error {e : ScanError} (h : .error e ∈ found) :
    ∃ (ts : List Token) (first : ScanError) (after : List Item),
      found = ts.map .token ++ .error first :: after := by
  induction found with
  | nil => cases h
  | cons i is ih =>
      cases i with
      | error first => exact ⟨[], first, is, rfl⟩
      | token t =>
          rcases List.mem_cons.mp h with h | h
          · cases h
          · obtain ⟨ts, first, after, rfl⟩ := ih h
            exact ⟨t :: ts, first, after, rfl⟩

theorem filterMap_token?_map (ts : List Token) :
    (ts.map Item.token).filterMap Item.token? = ts := by
  rw [List.filterMap_map]
  exact List.filterMap_some

theorem filterMap_error?_map (ts : List Token) :
    (ts.map Item.token).filterMap Item.error? = [] := by
  rw [List.filterMap_map, List.filterMap_eq_nil_iff]
  intro t _
  rfl

theorem stopAtError_map (ts : List Token) : stopAtError (ts.map .token) = .ok ts := by
  induction ts with
  | nil => rfl
  | cons t ts ih => rw [List.map_cons, stopAtError, ih, Except.map]

theorem stopAtError_append (ts : List Token) (e : ScanError) (after : List Item) :
    stopAtError (ts.map .token ++ .error e :: after) = .error e := by
  induction ts with
  | nil => rfl
  | cons t ts ih => rw [List.map_cons, List.cons_append, stopAtError, ih, Except.map]

end Lists

/-! ### The two ways through a text -/

/-- **Stopping finds what going on finds, up to the first error.** -/
theorem tokensFrom_eq_stopAtError (line : Nat) (ss : List Segment) :
    tokensFrom line ss = stopAtError (itemsFrom line ss) := by
  induction ss generalizing line with
  | nil => rfl
  | cons s ss ih =>
      rw [itemsFrom, tokensFrom]
      cases s.item? line with
      | none => exact ih _
      | some i =>
          cases i with
          | token t =>
              show (tokensFrom _ ss).map _ = (stopAtError (itemsFrom _ ss)).map _
              rw [ih]
          | error e => rfl

theorem scan_eq_stopAtError (source : String) : scan source = stopAtError (items source) :=
  tokensFrom_eq_stopAtError 1 _

theorem scanAll_of_items_eq_map {source : String} {ts : List Token}
    (h : items source = ts.map .token) : scanAll source = .ok ts := by
  simp only [scanAll, h, filterMap_error?_map, filterMap_token?_map]

theorem scanAll_of_items_eq_append {source : String} {ts : List Token} {e : ScanError}
    {after : List Item} (h : items source = ts.map .token ++ .error e :: after) :
    (items source).filterMap Item.error? = e :: after.filterMap Item.error? ∧
      scanAll source = .error (e :: after.filterMap Item.error?) := by
  have herrors : (items source).filterMap Item.error? = e :: after.filterMap Item.error? := by
    rw [h, List.filterMap_append, filterMap_error?_map]
    rfl
  exact ⟨herrors, by simp only [scanAll, herrors]⟩

section Success

variable {source : String} {ts : List Token}

/-- The items of a text are tokens, or there is a first error. -/
theorem items_eq_map_or_eq_append (source : String) :
    (∃ ts : List Token, items source = ts.map .token) ∨
      ∃ (ts : List Token) (e : ScanError) (after : List Item),
        items source = ts.map .token ++ .error e :: after := by
  by_cases h : ∃ e, .error e ∈ items source
  · obtain ⟨e, he⟩ := h
    exact .inr (exists_eq_append_error he)
  · exact .inl (exists_eq_map_token fun e he => h ⟨e, he⟩)

theorem scan_eq_ok_iff : scan source = .ok ts ↔ items source = ts.map .token := by
  rw [scan_eq_stopAtError]
  constructor
  · intro h
    rcases items_eq_map_or_eq_append source with ⟨us, hitems⟩ | ⟨us, e, after, hitems⟩
    · rw [hitems, stopAtError_map] at h
      cases h
      exact hitems
    · rw [hitems, stopAtError_append] at h
      cases h
  · intro h
    rw [h, stopAtError_map]

theorem scanAll_eq_ok_iff : scanAll source = .ok ts ↔ items source = ts.map .token := by
  constructor
  · intro h
    rcases items_eq_map_or_eq_append source with ⟨us, hitems⟩ | ⟨us, e, after, hitems⟩
    · rw [scanAll_of_items_eq_map hitems] at h
      cases h
      exact hitems
    · rw [(scanAll_of_items_eq_append hitems).2] at h
      cases h
  · exact scanAll_of_items_eq_map

end Success

/-- **All ways of scanning agree.**  If no item of a text is an error, both `scan` and
`scanAll` give its items as tokens; otherwise `scan` gives the first error and `scanAll`
gives all of them.  So one succeeds with the tokens with which the other does, and one
fails with the error that is first for the other. -/
theorem scan_agrees_with_scanAll (source : String) :
    ((∀ e, .error e ∉ items source) →
      ∃ ts, items source = ts.map .token ∧ scan source = .ok ts ∧ scanAll source = .ok ts) ∧
    ((∃ e, .error e ∈ items source) →
      ∃ e es, (items source).filterMap Item.error? = e :: es ∧
        scan source = .error e ∧ scanAll source = .error (e :: es)) ∧
    (∀ ts, scan source = .ok ts ↔ scanAll source = .ok ts) ∧
    ∀ e, scan source = .error e ↔ ∃ es, scanAll source = .error (e :: es) := by
  by_cases h : ∃ e, .error e ∈ items source
  · obtain ⟨ts, e, after, hitems⟩ := h.elim fun _ => exists_eq_append_error
    obtain ⟨herrors, hall⟩ := scanAll_of_items_eq_append hitems
    have hscan : scan source = .error e := by
      rw [scan_eq_stopAtError, hitems, stopAtError_append]
    refine ⟨fun hno => ?_, fun _ => ⟨e, _, herrors, hscan, hall⟩, ?_, ?_⟩
    · obtain ⟨e', he'⟩ := h
      exact absurd he' (hno e')
    · intro us
      simp [hscan, hall]
    · intro e'
      simp [hscan, hall]
  · obtain ⟨ts, hitems⟩ := exists_eq_map_token fun e he => h ⟨e, he⟩
    have hscan : scan source = .ok ts := by rw [scan_eq_stopAtError, hitems, stopAtError_map]
    have hall := scanAll_of_items_eq_map hitems
    refine ⟨fun _ => ⟨ts, hitems, hscan, hall⟩, fun hex => absurd hex h, ?_, ?_⟩
    · intro us
      simp [hscan, hall]
    · intro e'
      simp [hscan, hall]

end LoxScan

import LoxScan.Scan
import LoxScan.Segment.Tiling

/-! # Where the items of a text stand

`items` says what is found in a text and forgets where.  An **extent** keeps the place: it
is a stretch of the text, counted in characters from the start, together with the item it
yields.  Blanks and comments have extents too, which yield nothing, so the extents of a
text are all the places at which scanning begins something.

The extents of a text are a **layout** of it (`isLayout_extents`): they follow each other
from its first character to its last, and the items of the text are what they yield, with
the mark at the end behind them.  Everything about a single extent follows from one fact
(`exists_isFirst_of_mem_extents`): a well-formed segment stands there that ends where it
must, and the extent yields the item of that segment on the line to which the line feeds
before it lead. -/

namespace LoxScan

open Segment

/-- A stretch of a text with what it yields: an item, or nothing for a blank or a comment. -/
structure Extent where
  /-- The number of characters before the stretch. -/
  start : Nat
  /-- The number of characters up to its end. -/
  stop : Nat
  item? : Option Item
  deriving DecidableEq

/-- The extents of segments of which the first has `start` characters before it and begins
on the given line. -/
def extentsFrom (start line : Nat) : List Segment → List Extent
  | [] => []
  | s :: ss =>
      ⟨start, start + s.text.length, s.item? line⟩ ::
        extentsFrom (start + s.text.length) (line + s.lineFeeds) ss

/-- The extents of a text, in order. -/
def extents (source : String) : List Extent := extentsFrom 0 1 (segments source.toList)

example : extents "a //\n;" =
    [⟨0, 1, some (.token ⟨.identifier, "a", some (.identifier "a"), 1⟩)⟩, ⟨1, 2, none⟩,
      ⟨2, 4, none⟩, ⟨4, 5, none⟩, ⟨5, 6, some (.token ⟨.operator .semicolon, ";", none, 2⟩)⟩] := by
  decide +kernel

/-- The line of the character that has `n` characters before it: one more than the number
of line feeds among these. -/
def lineAt (cs : List Char) (n : Nat) : Nat := 1 + (cs.take n).count '\n'

/-- The extents begin at `start`, follow each other without a gap, are not empty, and end
at `stop`. -/
def Consecutive (start : Nat) : List Extent → Nat → Prop
  | [], stop => start = stop
  | e :: es, stop => e.start = start ∧ e.start < e.stop ∧ Consecutive e.stop es stop

/-- The extents cut the whole text into stretches, and its items are what they yield, in
order, with the mark at the end of the text behind them. -/
structure IsLayout (source : String) (es : List Extent) : Prop where
  consecutive : Consecutive 0 es source.length
  items_eq : ∃ line,
    items source = es.filterMap Extent.item? ++ [.token ⟨.eof, "", none, line⟩]

/-! ### The extents of a text are a layout -/

theorem consecutive_extentsFrom {ss : List Segment} (ht : Tiling ss) (start line : Nat) :
    Consecutive start (extentsFrom start line ss) (start + (ss.flatMap text).length) := by
  induction ht generalizing start line with
  | nil => rfl
  | @cons s ss hs _ _ ih =>
      have hpos : 0 < s.text.length := List.length_pos_iff.mpr hs.text_ne_nil
      refine ⟨rfl, Nat.lt_add_of_pos_right hpos, ?_⟩
      rw [List.flatMap_cons, List.length_append, ← Nat.add_assoc]
      exact ih _ _

theorem count_flatMap_text_cons (s : Segment) (ss : List Segment) :
    ((s :: ss).flatMap text).count '\n' = s.lineFeeds + (ss.flatMap text).count '\n' := by
  rw [List.flatMap_cons, List.count_append, lineFeeds]

theorem itemsFrom_eq_filterMap (start line : Nat) (ss : List Segment) :
    itemsFrom line ss =
      (extentsFrom start line ss).filterMap Extent.item? ++
        [.token (.eof (line + (ss.flatMap text).count '\n'))] := by
  induction ss generalizing start line with
  | nil => rfl
  | cons s ss ih =>
      rw [itemsFrom, ih (start + s.text.length), extentsFrom, count_flatMap_text_cons,
        ← Nat.add_assoc, ← List.append_assoc]
      cases s.item? line <;> simp

/-- The items of a text are what its extents yield, and then the mark at the end, which
stands on the last line. -/
theorem items_eq_filterMap_extents (source : String) :
    items source =
      (extents source).filterMap Extent.item? ++
        [.token (.eof (1 + source.toList.count '\n'))] := by
  have h := itemsFrom_eq_filterMap 0 1 (segments source.toList)
  rwa [flatMap_text_segments] at h

/-- **The extents of a text are a layout of it.** -/
theorem isLayout_extents (source : String) : IsLayout source (extents source) where
  consecutive := by
    have h := consecutive_extentsFrom (tiling_segments source.toList) 0 1
    rwa [flatMap_text_segments, Nat.zero_add, String.length_toList] at h
  items_eq := ⟨_, items_eq_filterMap_extents source⟩

/-- The extents of segments are where their texts stand, one behind the other. -/
theorem mem_extentsFrom_iff {start line : Nat} {ss : List Segment} {e : Extent} :
    e ∈ extentsFrom start line ss ↔
      ∃ before s after, ss = before ++ s :: after ∧
        e = ⟨start + (before.flatMap text).length,
          start + (before.flatMap text).length + s.text.length,
          s.item? (line + (before.flatMap text).count '\n')⟩ := by
  constructor
  · intro h
    induction ss generalizing start line with
    | nil => cases h
    | cons s ss ih =>
        rcases List.mem_cons.mp h with rfl | h
        · exact ⟨[], s, ss, rfl, rfl⟩
        · obtain ⟨before, t, after, rfl, rfl⟩ := ih h
          refine ⟨s :: before, t, after, rfl, ?_⟩
          rw [count_flatMap_text_cons, List.flatMap_cons, List.length_append, Nat.add_assoc line,
            ← Nat.add_assoc start]
  · rintro ⟨before, s, after, rfl, rfl⟩
    induction before generalizing start line with
    | nil => exact List.mem_cons_self
    | cons t before ih =>
        rw [count_flatMap_text_cons, List.flatMap_cons, List.length_append, ← Nat.add_assoc line,
          ← Nat.add_assoc start]
        exact List.mem_cons_of_mem _ ih

/-- Every segment of a text has an extent, which is where its text stands. -/
theorem mem_extents_iff {source : String} {e : Extent} :
    e ∈ extents source ↔
      ∃ before s after, segments source.toList = before ++ s :: after ∧
        e = ⟨(before.flatMap text).length, (before.flatMap text).length + s.text.length,
          s.item? (1 + (before.flatMap text).count '\n')⟩ := by
  rw [extents, mem_extentsFrom_iff]
  simp only [Nat.zero_add]

/-- A text is the text of its segments. -/
theorem toList_of_segments {source : String} {before after : List Segment} {s : Segment}
    (h : segments source.toList = before ++ s :: after) :
    source.toList = before.flatMap text ++ s.text ++ after.flatMap text := by
  rw [← flatMap_text_segments source.toList, h, List.flatMap_append, List.flatMap_cons,
    List.append_assoc]

/-- A rewriting that counts the places of a joined text is a rewriting of its pieces, each
counted from where it begins. -/
theorem mapIdx_flatMap {α β : Type} {l : List α} {t u : α → List β} {φ : Nat → β → β}
    (h : ∀ before a after, l = before ++ a :: after →
      ((t a).mapIdx fun n => φ ((before.flatMap t).length + n)) = u a) :
    (l.flatMap t).mapIdx φ = l.flatMap u := by
  induction l generalizing φ with
  | nil => rfl
  | cons a l ih =>
      have hhead := h [] a l rfl
      simp only [List.flatMap_nil, List.length_nil, Nat.zero_add] at hhead
      rw [List.flatMap_cons, List.mapIdx_append, hhead, List.flatMap_cons]
      refine congrArg (u a ++ ·) (ih fun before b after hl => ?_)
      rw [← h (a :: before) b after (by rw [hl]; rfl), List.flatMap_cons, List.length_append]
      refine congrArg (List.mapIdx · (t b)) (funext fun n => congrArg φ ?_)
      omega

/-- What follows a stretch begins where it ends or later. -/
theorem Consecutive.pairwise {start stop : Nat} {es : List Extent} (h : Consecutive start es stop) :
    es.Pairwise (fun e f => e.stop ≤ f.start) ∧ ∀ e ∈ es, start ≤ e.start := by
  induction es generalizing start with
  | nil => exact ⟨.nil, fun e he => absurd he List.not_mem_nil⟩
  | cons e es ih =>
      obtain ⟨hstart, hlt, hrest⟩ := h
      obtain ⟨hpairwise, hbehind⟩ := ih hrest
      refine ⟨.cons hbehind hpairwise, fun f hf => ?_⟩
      rcases List.mem_cons.mp hf with rfl | hf
      · exact Nat.le_of_eq hstart.symm
      · have hlater := hbehind f hf
        omega

/-- No stretch is empty. -/
theorem Consecutive.start_lt_stop {start stop : Nat} {es : List Extent} {e : Extent}
    (h : Consecutive start es stop) (he : e ∈ es) : e.start < e.stop := by
  induction es generalizing start with
  | nil => cases he
  | cons first es ih =>
      obtain ⟨-, hlt, hrest⟩ := h
      rcases List.mem_cons.mp he with rfl | he
      · exact hlt
      · exact ih hrest he

/-- No two stretches share a character. -/
theorem Consecutive.eq_of_overlap {start stop n : Nat} {es : List Extent} {e f : Extent}
    (h : Consecutive start es stop) (he : e ∈ es) (hf : f ∈ es)
    (hen : e.start ≤ n ∧ n < e.stop) (hfn : f.start ≤ n ∧ n < f.stop) : e = f := by
  induction es generalizing start with
  | nil => cases he
  | cons first es ih =>
      obtain ⟨-, -, hrest⟩ := h
      obtain ⟨-, hbehind⟩ := hrest.pairwise
      by_cases hefirst : e = first
      · by_cases hffirst : f = first
        · rw [hefirst, hffirst]
        · have hlater := hbehind f ((List.mem_cons.mp hf).resolve_left hffirst)
          rw [← hefirst] at hlater
          omega
      · have he := (List.mem_cons.mp he).resolve_left hefirst
        by_cases hffirst : f = first
        · have hlater := hbehind e he
          rw [← hffirst] at hlater
          omega
        · exact ih hrest he ((List.mem_cons.mp hf).resolve_left hffirst)

/-! ### What stands at an extent -/

/-- The token of a segment carries the text of the segment and the line on which it begins,
and it is not the mark at the end. -/
theorem token_of_item? {s : Segment} {line : Nat} {t : Token}
    (h : s.item? line = some (.token t)) :
    t.lexeme.toList = s.text ∧ t.line = line ∧ t.kind ≠ .eof := by
  cases s <;> cases h
  case word name =>
    refine ⟨by simp [text], wordToken_line name line, ?_⟩
    rw [wordToken_kind]
    cases Keyword.ofSpelling? (String.ofList name) <;> exact Kind.noConfusion
  all_goals exact ⟨by simp [lexeme], rfl, Kind.noConfusion⟩

/-- The induction carries the text `before` that is cut already: its length is where the
next extent starts, and its line feeds say on which line. -/
theorem exists_isFirst_of_mem_extentsFrom {ss : List Segment} (ht : Tiling ss)
    (before : List Char) {e : Extent}
    (he : e ∈ extentsFrom before.length (1 + before.count '\n') ss) :
    ∃ s, IsFirst ((before ++ ss.flatMap text).drop e.start) s
        ((before ++ ss.flatMap text).drop e.stop) ∧
      e.stop = e.start + s.text.length ∧
      e.item? = s.item? (lineAt (before ++ ss.flatMap text) e.start) := by
  induction ht generalizing before with
  | nil => cases he
  | @cons s ss hs hend ht ih =>
      rw [List.flatMap_cons, ← List.append_assoc]
      rcases List.mem_cons.mp he with rfl | he
      · refine ⟨s, ⟨?_, hs, ?_⟩, rfl, ?_⟩
        · rw [← List.length_append, List.drop_left, List.append_assoc, List.drop_left]
        · show s.EndsBefore (List.drop (before.length + s.text.length) _)
          rwa [← List.length_append, List.drop_left]
        · simp [lineAt]
      · refine ih (before ++ s.text) ?_
        rwa [List.length_append, List.count_append, ← Nat.add_assoc]

/-- **At an extent stands a segment**, well formed and ending where it must; it is the text
of the extent, and the extent yields what it yields on its line. -/
theorem exists_isFirst_of_mem_extents {source : String} {e : Extent} (he : e ∈ extents source) :
    ∃ s, IsFirst (source.toList.drop e.start) s (source.toList.drop e.stop) ∧
      source.toList.extract e.start e.stop = s.text ∧
      e.item? = s.item? (lineAt source.toList e.start) := by
  have h := exists_isFirst_of_mem_extentsFrom (tiling_segments source.toList) [] he
  rw [List.nil_append, flatMap_text_segments] at h
  obtain ⟨s, hs, hstop, hitem⟩ := h
  refine ⟨s, hs, ?_, hitem⟩
  rw [List.extract_eq_take_drop, ← hs.append, hstop, Nat.add_sub_cancel_left, List.take_left]

end LoxScan

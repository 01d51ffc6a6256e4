import LoxScan.Proofs.Malformed

/-! # Texts joined by a line feed

A line feed ends every segment but a string or a comment that is still open.  So where a text
is not open at its end, a line feed and a second text may be written behind it, and each of
the two is scanned as if it stood alone (`items_append_newline`).  The last segment of the
first text sees the line feed where it saw the end of the text, and takes it for an end as
well (`stopsLike_newline`); what it finds stays.  The second text stands further down, which
shows in the lines of its items and in nothing else (`itemsFrom_add`). -/

namespace LoxScan

open Segment

/-- The same item, some lines further down. -/
def Item.moveDown (lines : Nat) : Item → Item
  | token t => token { t with line := t.line + lines }
  | error e => error { e with line := e.line + lines }

variable {line : Nat}

/-! ### Items further down -/

theorem wordToken_add (name : List Char) (line k : Nat) :
    wordToken name (line + k) =
      { wordToken name line with line := (wordToken name line).line + k } := by
  simp only [wordToken]
  split <;> rfl

/-- A segment yields the same item on whatever line it begins. -/
theorem item?_add (line k : Nat) (s : Segment) :
    s.item? (line + k) = (s.item? line).map (Item.moveDown k) := by
  cases s with
  | word name => rw [item?, item?, wordToken_add, Option.map_some, Item.moveDown]
  | openString body | openComment body =>
      rw [item?, item?, Nat.add_right_comm, Option.map_some, Item.moveDown]
  | _ => rfl

/-- Segments that begin some lines further down yield their items there. -/
theorem itemsFrom_add (line k : Nat) (ss : List Segment) :
    itemsFrom (line + k) ss = (itemsFrom line ss).map (Item.moveDown k) := by
  induction ss generalizing line with
  | nil => rfl
  | cons s ss ih =>
      rw [itemsFrom, itemsFrom, List.map_append, item?_add, Nat.add_right_comm, ih]
      cases s.item? line <;> rfl

/-! ### Items of joined segments -/

theorem itemsFrom_ne_nil (line : Nat) (ss : List Segment) : itemsFrom line ss ≠ [] := by
  rw [itemsFrom_eq_filterMap 0]
  simp

/-- The items of two rows of segments are those of the first without the mark at the end, and
then those of the second on the line to which the first leads. -/
theorem itemsFrom_append (line : Nat) (ss ts : List Segment) :
    itemsFrom line (ss ++ ts) =
      (itemsFrom line ss).dropLast ++ itemsFrom (line + (ss.flatMap text).count '\n') ts := by
  induction ss generalizing line with
  | nil => rfl
  | cons s ss ih =>
      rw [List.cons_append, itemsFrom, ih, itemsFrom,
        List.dropLast_append_of_ne_nil (itemsFrom_ne_nil _ _), List.append_assoc,
        count_flatMap_text_cons, Nat.add_assoc]

/-! ### A line feed between two texts -/

/-- A line feed in front of a text is a segment of its own. -/
theorem segments_newline (cs : List Char) : segments ('\n' :: cs) = .blank '\n' :: segments cs :=
  segments_of_isFirst ⟨rfl, rfl, trivial⟩

/-- A text that is not open at its end is cut as before where a line feed and more text
follow it. -/
theorem segments_append_newline {cs : List Char} (h : ∀ s ∈ segments cs, s.isOpen = false)
    (ds : List Char) :
    segments (cs ++ '\n' :: ds) = segments cs ++ .blank '\n' :: segments ds := by
  have hcut : segments cs = segments cs ++ [] := (List.append_nil _).symm
  have hstops : StopsLike (([] : List Segment).flatMap text) ('\n' :: ds) := stopsLike_newline
  have happend := segments_append hcut h hstops
  rwa [flatMap_text_segments, segments_newline] at happend

/-- **Scanning is compositional at line feeds.**  If a text has no unterminated error, then
what is found in it stays where a line feed and a second text are written behind it; the
mark at its end gives way to the items of the second text, each of them one line further down
than the line feeds of the first text say. -/
theorem items_append_newline (s t : String) (h : ∀ e, .error e ∈ items s → ¬ e.Unterminated) :
    ∃ found, items s = found ++ [.token (.eof (1 + s.toList.count '\n'))] ∧
      items (s ++ "\n" ++ t) =
        found ++ (items t).map (Item.moveDown (s.toList.count '\n' + 1)) := by
  have hclosed : ∀ u ∈ segments s.toList, u.isOpen = false := by
    intro u hu
    refine Bool.eq_false_iff.mpr fun hopen => ?_
    obtain ⟨e, he, hunterminated⟩ :=
      (exists_unterminated_mem_itemsFrom_iff 1).mpr ⟨u, hu, hopen⟩
    exact h e he hunterminated
  have htext : (s ++ "\n" ++ t).toList = s.toList ++ '\n' :: t.toList := by simp
  refine ⟨(items s).dropLast, ?_, ?_⟩
  · have hend := itemsFrom_append 1 (segments s.toList) []
    rwa [List.append_nil, flatMap_text_segments] at hend
  · calc items (s ++ "\n" ++ t)
        = itemsFrom 1 (segments s.toList ++ .blank '\n' :: segments t.toList) := by
          rw [items, htext, segments_append_newline hclosed]
      _ = (items s).dropLast ++
            itemsFrom (1 + s.toList.count '\n') (.blank '\n' :: segments t.toList) := by
          rw [itemsFrom_append, flatMap_text_segments]
          rfl
      _ = (items s).dropLast ++ itemsFrom (1 + (s.toList.count '\n' + 1)) (segments t.toList) :=
          rfl
      _ = _ := by rw [itemsFrom_add]; rfl

/-- Two slashes on two lines are no comment, and an unexpected character does no harm. -/
theorem items_slash_newline_slash :
    (∀ e, .error e ∈ items "@\n/" → ¬ e.Unterminated) ∧
      ∃ found, items "@\n/" = found ++ [.token (.eof 2)] ∧
        items ("@\n/" ++ "\n" ++ "/\"") = found ++ (items "/\"").map (Item.moveDown 2) := by
  have herrors : ∀ e ∈ (items "@\n/").filterMap Item.error?, ¬ e.Unterminated := by
    decide +kernel
  have h : ∀ e, .error e ∈ items "@\n/" → ¬ e.Unterminated :=
    fun e he => herrors e (List.mem_filterMap.mpr ⟨_, he, rfl⟩)
  exact ⟨h, items_append_newline "@\n/" "/\"" h⟩

end LoxScan

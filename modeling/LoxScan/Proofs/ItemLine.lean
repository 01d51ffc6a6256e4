import LoxScan.Proofs.Extent

/-! # The lines of items

A token and an unexpected character carry the line on which they start, which is one more
than the number of line feeds before them.  A string or a comment that is not closed takes
the rest of the text, and its error carries the last line, as does the mark at the end.

Line feeds are counted where a segment is passed, whatever segment it is, so none is missed
or counted twice at a place where a string, a comment and the text between them meet.  Two
facts about one segment carry this to a whole text: its item stands on the line on which
it begins or, at most, on the line on which it ends (`line_bounds_of_item?`), and where it
ends the next one begins. -/

namespace LoxScan

open Segment

/-! ### One segment -/

/-- An item stands no line before the segment it comes from, and no line behind its end. -/
theorem line_bounds_of_item? {s : Segment} {line : Nat} {i : Item} (h : s.item? line = some i) :
    line ≤ i.line ∧ i.line ≤ line + s.lineFeeds := by
  cases s <;> cases h
  case word name =>
    rw [Item.line, wordToken_line]
    omega
  all_goals simp only [Item.line]; omega

/-- Up to the end of a text that one segment reaches, the line feeds are those before the
segment and those in it. -/
theorem lineAt_add_lineFeeds {cs : List Char} {s : Segment} {start : Nat}
    (h : IsFirst (cs.drop start) s []) : lineAt cs start + s.lineFeeds = 1 + cs.count '\n' := by
  have hcs : cs.take start ++ s.text = cs := by
    rw [← List.append_nil s.text, h.append, List.take_append_drop]
  rw [lineAt, lineFeeds, Nat.add_assoc, ← List.count_append, hcs]

/-! ### A whole text -/

/-- Along the items of segments the lines never decrease, and none is before the line on
which the first segment begins. -/
theorem pairwise_line_itemsFrom (line : Nat) (ss : List Segment) :
    (itemsFrom line ss).Pairwise (fun i j => i.line ≤ j.line) ∧
      ∀ i ∈ itemsFrom line ss, line ≤ i.line := by
  induction ss generalizing line with
  | nil => simp [itemsFrom, Item.line, Token.eof]
  | cons s ss ih =>
      obtain ⟨hpairwise, hle⟩ := ih (line + s.lineFeeds)
      cases hitem : s.item? line with
      | none =>
          rw [itemsFrom, hitem]
          exact ⟨hpairwise, fun i hi => Nat.le_trans (Nat.le_add_right _ _) (hle i hi)⟩
      | some i =>
          obtain ⟨hlow, hhigh⟩ := line_bounds_of_item? hitem
          rw [itemsFrom, hitem]
          refine ⟨List.pairwise_cons.mpr ⟨?_, hpairwise⟩, ?_⟩
          · intro j hj
            exact Nat.le_trans hhigh (hle j hj)
          · intro j hj
            rcases List.mem_cons.mp hj with rfl | hj
            · exact hlow
            · exact Nat.le_trans (Nat.le_add_right _ _) (hle j hj)

/-- The lines of items are lines of the text. -/
theorem line_bounds_of_mem_items {source : String} {i : Item} (h : i ∈ items source) :
    1 ≤ i.line ∧ i.line ≤ 1 + source.toList.count '\n' := by
  obtain ⟨hpairwise, hlow⟩ := pairwise_line_itemsFrom 1 (segments source.toList)
  have hitems : itemsFrom 1 (segments source.toList) =
      (extents source).filterMap Extent.item? ++
        [.token (.eof (1 + source.toList.count '\n'))] :=
    items_eq_filterMap_extents source
  refine ⟨hlow i h, ?_⟩
  rw [hitems, List.pairwise_append] at hpairwise
  rw [items_eq_filterMap_extents, List.mem_append] at h
  rcases h with h | h
  · exact hpairwise.2.2 i h _ List.mem_cons_self
  · rw [List.mem_singleton.mp h]
    exact Nat.le_refl _

/-- **Lines are exact.**  A token or an unexpected character carries the line of its first
character, what is not closed and the mark at the end carry the last line, and along the
items of a text the lines never decrease. -/
theorem item_lines_exact (source : String) :
    IsLayout source (extents source) ∧
      (∀ e ∈ extents source,
        (∀ t, e.item? = some (.token t) →
          source.toList.extract e.start e.stop = t.lexeme.toList ∧
            t.line = 1 + (source.toList.take e.start).count '\n') ∧
        (∀ line c, e.item? = some (.error ⟨line, .unexpectedCharacter c⟩) →
          source.toList.extract e.start e.stop = [c] ∧
            line = 1 + (source.toList.take e.start).count '\n') ∧
        (∀ line, e.item? = some (.error ⟨line, .unterminatedString⟩) ∨
            e.item? = some (.error ⟨line, .unterminatedBlockComment⟩) →
          line = 1 + source.toList.count '\n')) ∧
      (items source).getLast? = some (.token (.eof (1 + source.toList.count '\n'))) ∧
      (items source).Pairwise fun i j => i.line ≤ j.line := by
  refine ⟨isLayout_extents source, ?_, ?_, (pairwise_line_itemsFrom 1 _).1⟩
  · intro e he
    obtain ⟨s, hs, htext, hitem⟩ := exists_isFirst_of_mem_extents he
    rw [htext, hitem]
    refine ⟨?_, ?_, ?_⟩
    · intro t ht
      obtain ⟨hlexeme, hline, -⟩ := token_of_item? ht
      exact ⟨hlexeme.symm, hline⟩
    · intro line c h
      cases s <;> cases h
      exact ⟨rfl, rfl⟩
    · intro line h
      have hend : source.toList.drop e.stop = [] := by
        rcases h with h | h <;> cases s <;> cases h <;> exact hs.endsBefore
      rw [hend] at hs
      rw [← lineAt_add_lineFeeds hs]
      rcases h with h | h <;> cases s <;> cases h <;> rfl
  · rw [items_eq_filterMap_extents, List.getLast?_append]
    rfl

/-- Behind a string that spans two lines a name stands on the second one. -/
theorem line_behind_long_string :
    (⟨3, 4, some (.token ⟨.identifier, "x", some (.identifier "x"), 2⟩)⟩ : Extent) ∈
        extents "\"\n\"x" ∧ 2 = 1 + ['"', '\n', '"'].count '\n' := by
  have he : (⟨3, 4, some (.token ⟨.identifier, "x", some (.identifier "x"), 2⟩)⟩ : Extent) ∈
      extents "\"\n\"x" := by decide +kernel
  exact ⟨he, (((item_lines_exact "\"\n\"x").2.1 _ he).1 _ rfl).2⟩

end LoxScan

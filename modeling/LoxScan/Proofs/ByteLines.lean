import LoxScan.Text.Lines
import LoxScan.Text.Utf8

/-! # Lines of bytes

Input is cut into lines while it is still bytes, and each line is read as text on its own.
Nothing goes wrong on the way: the byte of a line feed is part of no other character, so
cutting the bytes of a text gives the bytes of its lines (`cutAfter_utf8`), and the input is
a text exactly if all its lines are (`isSome_ofUtf8?_iff_cutAfter`). -/

namespace LoxScan.Text

theorem newline_mem_utf8_iff {cs : List Char} : (10 : UInt8) ∈ utf8 cs ↔ '\n' ∈ cs := by
  rw [utf8, List.mem_flatMap]
  constructor
  · rintro ⟨c, hc, hbyte⟩
    rwa [newline_mem_utf8EncodeChar_iff.mp hbyte] at hc
  · intro h
    exact ⟨'\n', h, newline_mem_utf8EncodeChar_iff.mpr rfl⟩

/-- **The lines of a text are encoded one by one.** -/
theorem cutAfter_utf8 (cs : List Char) :
    cutAfter (· == 10) (utf8 cs) = (cutAfter (· == '\n') cs).map utf8 := by
  induction cs with
  | nil => rfl
  | cons c cs ih =>
      rw [utf8_cons]
      by_cases hc : c = '\n'
      · subst hc
        have hbyte : String.utf8EncodeChar '\n' = [10] := by decide
        rw [hbyte, List.singleton_append, cutAfter_cons_separator rfl, ih,
          cutAfter_cons_separator rfl]
        rfl
      · -- No byte of another character is a separator, so they all go to the first piece.
        have hbytes : ∀ b ∈ String.utf8EncodeChar c, (b == 10) = false := by
          intro b hb
          rw [beq_eq_false_iff_ne]
          rintro rfl
          exact hc (newline_mem_utf8EncodeChar_iff.mp hb)
        rw [cutAfter_append String.utf8EncodeChar_ne_nil hbytes, ih, cutAfter_cons, List.map_cons,
          utf8_cons, List.map_tail]
        · cases cutAfter (· == '\n') cs <;> rfl
        · exact beq_eq_false_iff_ne.mpr hc

/-- Texts one after the other are a text. -/
theorem isSome_ofUtf8?_flatten {parts : List (List UInt8)}
    (h : ∀ part ∈ parts, (ofUtf8? part).isSome) : (ofUtf8? parts.flatten).isSome := by
  induction parts with
  | nil => rfl
  | cons part parts ih =>
      obtain ⟨hpart, hparts⟩ := List.forall_mem_cons.mp h
      obtain ⟨front, hfront⟩ := Option.isSome_iff_exists.mp hpart
      obtain ⟨back, hback⟩ := Option.isSome_iff_exists.mp (ih hparts)
      rw [ofUtf8?_eq_some_iff] at hfront hback
      rw [List.flatten_cons, ← hfront, ← hback, ← utf8_append, ofUtf8?_utf8]
      rfl

/-- **Input is a text exactly if each of its lines is.** -/
theorem isSome_ofUtf8?_iff_cutAfter {input : List UInt8} :
    (ofUtf8? input).isSome ↔ ∀ line ∈ cutAfter (· == 10) input, (ofUtf8? line).isSome := by
  constructor
  · intro h line hline
    obtain ⟨text, htext⟩ := Option.isSome_iff_exists.mp h
    rw [← ofUtf8?_eq_some_iff.mp htext, cutAfter_utf8] at hline
    obtain ⟨cs, -, rfl⟩ := List.mem_map.mp hline
    rw [ofUtf8?_utf8]
    rfl
  · intro h
    rw [← flatten_cutAfter (· == 10) input]
    exact isSome_ofUtf8?_flatten h

/-- In a line read as text a line feed is the end. -/
theorem newline_not_mem_dropLast_of_cutAfter {input line : List UInt8} {text : String}
    (hline : line ∈ cutAfter (· == 10) input) (htext : ofUtf8? line = some text) :
    '\n' ∉ text.toList.dropLast := by
  intro h
  rcases List.eq_nil_or_concat text.toList with hnil | ⟨ds, c, hcs⟩
  · rw [hnil] at h
    exact List.not_mem_nil h
  · rw [List.concat_eq_append] at hcs
    have hbytes : line = utf8 ds ++ String.utf8EncodeChar c := by
      rw [← ofUtf8?_eq_some_iff.mp htext, hcs, utf8_append, utf8_singleton]
    -- The last byte of the line belongs to the last character, so it is not the byte of a
    -- line feed further in front.
    have hmem : (10 : UInt8) ∈ line.dropLast := by
      rw [hbytes, List.dropLast_append_of_ne_nil String.utf8EncodeChar_ne_nil]
      rw [hcs, List.dropLast_concat] at h
      exact List.mem_append_left _ (newline_mem_utf8_iff.mpr h)
    simpa using not_isSeparator_of_mem_dropLast hline 10 hmem

end LoxScan.Text

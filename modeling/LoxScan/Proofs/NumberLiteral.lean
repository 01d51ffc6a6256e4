import LoxScan.Proofs.CorrectRounding
import LoxScan.Proofs.Numeral
import LoxScan.Proofs.WellFormedToken

/-! # Number literals

The value of a number token is the double nearest to the decimal that its lexeme denotes
(`number_literals_correctly_rounded`), however long the lexeme is.  A lexeme always is a numeral,
so the value is a number; therefore tokens are equal to themselves, which a value that is no number
would prevent.  Numbers are in the order of the decimals that their lexemes denote, since rounding
keeps that order. -/

namespace LoxScan

open Text Segment

/-- Digits denote a number: their whole part, and behind a point so many tenths, hundredths, and
so on. -/
inductive DigitsDenote : List Char → ℚ → Prop
  | integer {digits : List Char} (h : Rule.IsDigits digits) :
      DigitsDenote digits (Nat.ofDigitChars 10 digits 0)
  | decimal {whole fraction : List Char} (hwhole : Rule.IsDigits whole)
      (hfraction : Rule.IsDigits fraction) :
      DigitsDenote (whole ++ '.' :: fraction)
        (Nat.ofDigitChars 10 whole 0 + Nat.ofDigitChars 10 fraction 0 / 10 ^ fraction.length)

/-- The lexeme of the number token denotes the decimal `r`, and its value is `d`. -/
structure Token.Reads (t : Token) (r : Decimal) (d : Double) : Prop where
  kind_eq : t.kind = .number
  denotes : Numeral.ofText? t.lexeme.toList = some (.decimal false r)
  literal_eq : t.literal? = some (.number d)

/-! ### Lexemes are numerals -/

/-- The value of a well-formed number token is the one for which its lexeme stands. -/
theorem Token.WellFormed.exists_reads {t : Token} (h : t.WellFormed) (hkind : t.kind = .number) :
    ∃ r, t.Reads r (.ofDecimal false r) ∧ DigitsDenote t.lexeme.toList r.value := by
  cases h <;> cases hkind
  case integer digits _ hdigits =>
    refine ⟨.ofDigits digits [], ⟨rfl, ?_, rfl⟩, ?_⟩ <;> rw [String.toList_ofList]
    · exact (Numeral.isMantissa_digits hdigits).ofText?_eq false
    · have hvalue : (Decimal.ofDigits digits []).value = Nat.ofDigitChars 10 digits 0 := by
        simp [Decimal.value_ofDigits]
      exact hvalue ▸ .integer hdigits
  case decimal whole fraction _ hwhole hfraction =>
    refine ⟨.ofDigits whole fraction, ⟨rfl, ?_, rfl⟩, ?_⟩ <;> rw [String.toList_ofList]
    · exact (Numeral.isMantissa_point hwhole hfraction).ofText?_eq false
    · exact Decimal.value_ofDigits whole fraction ▸ .decimal hwhole hfraction

/-! ### Tokens are equal to themselves -/

theorem Double.equals_self {d : Double} (h : d.isNaN = false) : d.equals d = true := by
  simp [Double.equals, h]

theorem Token.equals_self {t : Token}
    (h : ∀ d, t.literal? = some (.number d) → d.isNaN = false) : t.equals t = true := by
  unfold Token.equals
  cases hliteral : t.literal? with
  | none => simp
  | some v =>
      cases v with
      | number d => simp [Literal.equals, Double.equals_self (h d hliteral)]
      | string text => simp [Literal.equals]
      | identifier name => simp [Literal.equals]

/-! ### The value is the lexeme, correctly rounded -/

/-- Every token of a text is well formed or the mark at the end. -/
theorem wellFormed_or_eof {source : String} {t : Token} (h : .token t ∈ items source) :
    t.WellFormed ∨ ∃ line, t = .eof line := by
  have hitems := items_eq_filterMap_extents source
  rw [hitems] at h
  rcases List.mem_append.mp h with h | h
  · left
    have hmem : .token t ∈ (items source).dropLast := by rwa [hitems, List.dropLast_concat]
    exact wellFormed_of_mem_items hmem
  · right
    exact ⟨_, Item.token.inj (List.mem_singleton.mp h)⟩

/-- The value of every number token of a text is the one for which its lexeme stands. -/
theorem exists_reads_of_mem_items {source : String} {t : Token} (h : .token t ∈ items source)
    (hkind : t.kind = .number) :
    ∃ r, t.Reads r (.ofDecimal false r) ∧ DigitsDenote t.lexeme.toList r.value := by
  rcases wellFormed_or_eof h with h | ⟨line, rfl⟩
  · exact h.exists_reads hkind
  · cases hkind

/-- What a token of a text says, it says by its lexeme. -/
theorem Token.Reads.eq_ofDecimal {source : String} {t : Token} {r : Decimal} {d : Double}
    (h : .token t ∈ items source) (hreads : t.Reads r d) : d = .ofDecimal false r := by
  obtain ⟨q, hq, -⟩ := exists_reads_of_mem_items h hreads.kind_eq
  have hdenotes := hq.denotes.symm.trans hreads.denotes
  have hliteral := hq.literal_eq.symm.trans hreads.literal_eq
  cases hdenotes
  cases hliteral
  rfl

/-- No value that is found in a text differs from itself. -/
theorem isNaN_of_mem_items {source : String} {t : Token} (h : .token t ∈ items source) {d : Double}
    (hliteral : t.literal? = some (.number d)) : d.isNaN = false := by
  rcases wellFormed_or_eof h with h | ⟨line, rfl⟩
  · cases h <;> cases hliteral <;> exact Double.isNaN_ofDecimal _ _
  · cases hliteral

/-- Rounding keeps the order of decimals. -/
theorem Double.atMost_ofDecimal {r q : Decimal} (h : r.value ≤ q.value) :
    (ofDecimal false r).atMost (ofDecimal false q) = true := by
  have hmagnitude := nearestMagnitude_le_of_value_le h
  have hrank : (ofDecimal false r).rank ≤ (ofDecimal false q).rank := Int.ofNat_le.mpr hmagnitude
  simp [atMost, isNaN_ofDecimal, hrank]

/-- **Number literals are rounded correctly and are numbers.**  Every token that is found in a
text is equal to itself.  The lexeme of a number token is digits, with or without a point among
them, so it always has a value, and this value is the one double with the sign bit zero that is
nearest to what the digits denote, ties going to even.  It is infinity from `2 ^ 1024 - 2 ^ 970`
on and zero up to `2 ^ (-1075)`, and it is at most the value of every number token, of whatever
text, whose lexeme denotes no smaller number. -/
theorem number_literals_correctly_rounded (source : String) (t : Token)
    (ht : .token t ∈ items source) :
    t.equals t = true ∧
    (t.kind = .number → ∃ r d, t.Reads r d ∧ DigitsDenote t.lexeme.toList r.value ∧
      Double.ofText? t.lexeme = some d ∧ d.isNaN = false ∧
      (∀ e : Double, e = d ↔ e.negative = false ∧ e.IsCorrectlyRounded r.value) ∧
      (d.magnitude = Double.infinityMagnitude ↔ 2 ^ 1024 - 2 ^ 970 ≤ r.value) ∧
      (d.magnitude = 0 ↔ r.value ≤ 2 ^ (-1075 : ℤ)) ∧
      ∀ (other : String) (u : Token) (q : Decimal) (e : Double), .token u ∈ items other →
        u.Reads q e → r.value ≤ q.value → d.atMost e = true) := by
  refine ⟨t.equals_self fun d => isNaN_of_mem_items ht, fun hkind => ?_⟩
  obtain ⟨r, hreads, hdenote⟩ := exists_reads_of_mem_items ht hkind
  have hcorrect := Double.isCorrectlyRounded_ofDecimal r false
  refine ⟨r, .ofDecimal false r, hreads, hdenote, ?_, hcorrect.isNaN_eq, fun e => ⟨?_, ?_⟩,
    ?_, ?_, ?_⟩
  · rw [Double.ofText?, hreads.denotes]
    rfl
  · rintro rfl
    exact ⟨rfl, hcorrect⟩
  · rintro ⟨hsign, he⟩
    exact he.eq hcorrect fun _ => hsign
  · exact Double.nearestMagnitude_eq_infinity_iff r
  · exact Double.nearestMagnitude_eq_zero_iff r
  · intro other u q e hu hq hle
    rw [Token.Reads.eq_ofDecimal hu hq]
    exact Double.atMost_ofDecimal hle

/-- A number behind an unexpected character, and a larger one of another text. -/
theorem number_literals_of_two_texts :
    .token ⟨.number, "2.5", some (.number (.ofDecimal false ⟨25, -1⟩)), 1⟩ ∈ items "@2.5" ∧
      .token ⟨.number, "10", some (.number (.ofDecimal false ⟨10, 0⟩)), 2⟩ ∈ items "\n10;" ∧
      (Double.ofDecimal false ⟨25, -1⟩).IsCorrectlyRounded (Decimal.value ⟨25, -1⟩) ∧
      (Double.ofDecimal false ⟨25, -1⟩).atMost (.ofDecimal false ⟨10, 0⟩) = true := by
  have ht : .token ⟨.number, "2.5", some (.number (.ofDecimal false ⟨25, -1⟩)), 1⟩ ∈
      items "@2.5" := by
    decide +kernel
  have hu : .token ⟨.number, "10", some (.number (.ofDecimal false ⟨10, 0⟩)), 2⟩ ∈
      items "\n10;" := by
    decide +kernel
  obtain ⟨r, d, hreads, -, -, -, hunique, -, -, horder⟩ :=
    (number_literals_correctly_rounded "@2.5" _ ht).2 rfl
  have hr : r = ⟨25, -1⟩ := by
    have hdenotes : Numeral.ofText? ['2', '.', '5'] = some (.decimal false ⟨25, -1⟩) := by
      decide +kernel
    exact (Numeral.decimal.inj (Option.some.inj (hreads.denotes.symm.trans hdenotes))).2
  have hd : d = .ofDecimal false ⟨25, -1⟩ :=
    (Literal.number.inj (Option.some.inj hreads.literal_eq)).symm
  have hle : r.value ≤ Decimal.value ⟨10, 0⟩ := by
    rw [hr, Decimal.value, Decimal.value]
    norm_num
  have hcorrect := ((hunique d).mp rfl).2
  have hsmaller := horder "\n10;" _ ⟨10, 0⟩ _ hu ⟨rfl, by decide +kernel, rfl⟩ hle
  rw [hd] at hcorrect hsmaller
  rw [hr] at hcorrect
  exact ⟨ht, hu, hcorrect, hsmaller⟩

end LoxScan

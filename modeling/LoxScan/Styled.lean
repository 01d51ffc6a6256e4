/-! # Styled text

Text for a terminal is a row of spans, some of which carry a style.  Rendering with styles
puts escape sequences before and a reset after each styled span; rendering without leaves
the characters alone.  A style is closed where its span ends, so no style reaches beyond
the text it is meant for. -/

namespace LoxScan

/-- How a span may be shown. -/
inductive Style where
  | boldRed | boldBlue | blue | green | magenta | yellow | red | dim | italic | bold
  /-- Bold and underlined. -/
  | heading
  deriving DecidableEq, Repr

namespace Style

/-- The parameters of the escape sequences that together turn a style on. -/
def parameters : Style → List (List Char)
  | boldRed => [['1', ';', '3', '1']]
  | boldBlue => [['1', ';', '3', '4']]
  | blue => [['3', '4']]
  | green => [['3', '2']]
  | magenta => [['3', '5']]
  | yellow => [['3', '3']]
  | red => [['3', '1']]
  | dim => [['2']]
  | italic => [['3']]
  | bold => [['1']]
  | heading => [['1'], ['4']]

/-- The escape sequence with the given parameters. -/
def escapeSequence (parameters : List Char) : List Char :=
  '\x1b' :: '[' :: (parameters ++ ['m'])

/-- The escape sequences that turn a style on. -/
def opening (s : Style) : List Char := s.parameters.flatMap escapeSequence

/-- The escape sequence that turns all styles off. -/
def reset : List Char := escapeSequence ['0']

end Style

/-- Characters that are shown in one style, or in none. -/
structure Span where
  style? : Option Style
  text : List Char
  deriving DecidableEq

namespace Span

/-- Characters without a style. -/
def plain (text : List Char) : Span := ⟨none, text⟩

/-- Characters in a style. -/
def styled (style : Style) (text : List Char) : Span := ⟨some style, text⟩

/-- The characters of a span, between escape sequences if styles are shown and it has one. -/
def render (showStyles : Bool) (s : Span) : List Char :=
  match s.style? with
  | some style => if showStyles then style.opening ++ s.text ++ Style.reset else s.text
  | none => s.text

@[simp] theorem render_false (s : Span) : s.render false = s.text := by
  unfold render
  split <;> rfl

end Span

/-- A text of which some parts are styled. -/
abbrev Styled := List Span

namespace Styled

/-- The text with or without its styles. -/
def render (showStyles : Bool) (spans : Styled) : List Char :=
  spans.flatMap (Span.render showStyles)

/-- Without styles a text is its characters. -/
theorem render_false (spans : Styled) : spans.render false = spans.flatMap Span.text := by
  rw [render, funext Span.render_false]

theorem render_cons (showStyles : Bool) (s : Span) (spans : Styled) :
    Styled.render showStyles (s :: spans) =
      s.render showStyles ++ Styled.render showStyles spans := rfl

@[simp] theorem render_append (showStyles : Bool) (a b : Styled) :
    Styled.render showStyles (a ++ b) = a.render showStyles ++ b.render showStyles := by
  simp [render]

end Styled
end LoxScan

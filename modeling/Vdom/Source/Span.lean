/-!
# Spans — where a node stands in its template

A span runs from one position to another and quotes the text between them. Nodes that stand
nowhere in the template carry the stub, a span without text and without extent.
-/

namespace Vdom

/-- A place in a template: bytes from the start, line and column from one. -/
structure Position where
  offset : UInt32
  line : UInt32
  column : UInt32
  deriving DecidableEq, Repr, Inhabited

/-- A stretch of a template and its text. -/
structure Span where
  start : Position
  stop : Position
  source : String
  deriving DecidableEq, Repr, Inhabited

namespace Span

/-- The span of a node that stands nowhere in the template. -/
def stub : Span := ⟨⟨0, 1, 1⟩, ⟨0, 1, 1⟩, ""⟩

/-- Whether a span has neither text nor extent. -/
def isStub (s : Span) : Bool := s.source.isEmpty && s.start = s.stop

end Span

end Vdom

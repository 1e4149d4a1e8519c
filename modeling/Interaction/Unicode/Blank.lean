/-! # Blanks

The four characters that are white space in a source text and in JSON alike. -/

namespace Interaction

/-- A space, a tab, a carriage return or a line feed. -/
def isBlank (c : Char) : Bool := c == ' ' || c == '\t' || c == '\r' || c == '\n'

end Interaction

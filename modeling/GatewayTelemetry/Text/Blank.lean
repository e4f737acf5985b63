/-!
# Blank characters

The characters with the Unicode property `White_Space`. A line that holds nothing else is blank.
-/

namespace GatewayTelemetry
namespace Text

/-- All characters with the Unicode property `White_Space`, in code point order. -/
def blanks : List Char :=
  ['\x09', '\x0a', '\x0b', '\x0c', '\x0d', '\x20', '\u0085', '\u00a0', '\u1680', '\u2000',
    '\u2001', '\u2002', '\u2003', '\u2004', '\u2005', '\u2006', '\u2007', '\u2008', '\u2009',
    '\u200a', '\u2028', '\u2029', '\u202f', '\u205f', '\u3000']

def isBlank (c : Char) : Bool :=
  blanks.contains c

/-- A text of blank characters only; the empty text is one. -/
def allBlank (text : List Char) : Bool :=
  text.all isBlank

end Text
end GatewayTelemetry

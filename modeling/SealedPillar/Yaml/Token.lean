/-!
Tokens of YAML text, the positions they start at, and the character classes the scanner uses.

A position (`Mark`) counts characters from zero and lines from one; columns count from zero and
are shown from one. A scan error is a message and the position it refers to; its text is
`<message> at byte <index> line <line> column <column>`.
-/

namespace SealedPillar

namespace Yaml

structure Mark where
  index : Nat
  line : Nat
  col : Nat
  deriving Inhabited, DecidableEq

structure ScanError where
  mark : Mark
  info : String
  deriving Inhabited

def ScanError.message (e : ScanError) : String :=
  let column := e.mark.col + 1
  s!"{e.info} at byte {e.mark.index} line {e.mark.line} column {column}"

inductive ScalarStyle where
  | plain
  | singleQuoted
  | doubleQuoted
  | literal
  | folded
  deriving Inhabited, DecidableEq

inductive TokenKind where
  | streamStart
  | streamEnd
  | versionDirective (major minor : Nat)
  | tagDirective (handle pfx : String)
  | documentStart
  | documentEnd
  | blockSequenceStart
  | blockMappingStart
  | blockEnd
  | flowSequenceStart
  | flowSequenceEnd
  | flowMappingStart
  | flowMappingEnd
  | blockEntry
  | flowEntry
  | key
  | value
  | alias (name : String)
  | anchor (name : String)
  | tag (handle suffix : String)
  | scalar (style : ScalarStyle) (text : String)
  deriving Inhabited

structure Token where
  mark : Mark
  kind : TokenKind
  deriving Inhabited

def endChar : Char := '\x00'

def isBreak (c : Char) : Bool := c == '\n' || c == '\r'

def isZ (c : Char) : Bool := c == endChar

def isBreakZ (c : Char) : Bool := isBreak c || isZ c

def isBlank (c : Char) : Bool := c == ' ' || c == '\t'

def isBlankZ (c : Char) : Bool := isBlank c || isBreakZ c

def isFlow (c : Char) : Bool := c == ',' || c == '[' || c == ']' || c == '{' || c == '}'

def isDigit (c : Char) : Bool := '0' ≤ c && c ≤ '9'

def isAlpha (c : Char) : Bool :=
  isDigit c || ('a' ≤ c && c ≤ 'z') || ('A' ≤ c && c ≤ 'Z') || c == '_' || c == '-'

def isHex (c : Char) : Bool :=
  isDigit c || ('a' ≤ c && c ≤ 'f') || ('A' ≤ c && c ≤ 'F')

def hexValue (c : Char) : Nat :=
  if isDigit c then c.toNat - '0'.toNat
  else if 'a' ≤ c && c ≤ 'f' then c.toNat - 'a'.toNat + 10
  else c.toNat - 'A'.toNat + 10

def isAnchorChar (c : Char) : Bool :=
  !isBlankZ c && !isFlow c && c != '\uFEFF'

def isUriChar (c : Char) : Bool :=
  (isAlpha c && c != '_') || "#;/?:@&=+$,_.!~*'()[]%".toList.contains c

def isTagChar (c : Char) : Bool := isUriChar c && !isFlow c && c != '!'

end Yaml

end SealedPillar

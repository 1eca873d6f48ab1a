import SealedPillar.Text.Printable

/-!
Text as diagnostics quote it.

Inside quotes a character stands as itself, except that NUL, tab, carriage return and line feed
are written `\0 \t \r \n`, the backslash and the quote in use get a backslash before them, and a
character that is not printable or extends a grapheme is written `\u{hex}`, in lowercase digits
without leading zeros. A string is quoted with `"`, a single character with `'`.
-/

namespace SealedPillar

namespace Text

def hexDigitLower (n : Nat) : Char := if n < 10 then Char.ofNat (48 + n) else Char.ofNat (87 + n)

def hexLower (n : Nat) : String :=
  if n < 16 then String.singleton (hexDigitLower n)
  else hexLower (n / 16) ++ String.singleton (hexDigitLower (n % 16))
termination_by n
decreasing_by omega

def escapeIn (quote c : Char) : String :=
  if c == '\x00' then "\\0"
  else if c == '\t' then "\\t"
  else if c == '\r' then "\\r"
  else if c == '\n' then "\\n"
  else if c == '\\' then "\\\\"
  else if c == quote then "\\" ++ String.singleton c
  else if extendsGrapheme c || !isPrintable c then "\\u" ++ "\x7b" ++ hexLower c.toNat ++ "\x7d"
  else String.singleton c

def quoteString (s : String) : String := "\"" ++ String.join (s.toList.map (escapeIn '"')) ++ "\""

def quoteChar (c : Char) : String := "'" ++ escapeIn '\'' c ++ "'"

end Text

end SealedPillar

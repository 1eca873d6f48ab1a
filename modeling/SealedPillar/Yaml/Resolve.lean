import SealedPillar.Value

/-!
What an unquoted scalar means.

An unquoted scalar is null when it is empty, `~` or `null` in three spellings; a boolean when it
is one of the YAML 1.1 words (`true`, `yes`, `on` and their negatives, each in lower, title and
upper case, but not `y` or `n`); a number when `Number.ofText?` reads it; and a string otherwise.
Quoted and block scalars are always strings.
-/

namespace SealedPillar

namespace Yaml

def parseBool (text : String) : Option Bool :=
  if ["true", "True", "TRUE", "yes", "Yes", "YES", "on", "On", "ON"].contains text then some true
  else if ["false", "False", "FALSE", "no", "No", "NO", "off", "Off", "OFF"].contains text then
    some false
  else none

def nullWords : List String := ["", "~", "null", "Null", "NULL"]

/-- The value an unquoted scalar stands for. -/
def resolvePlain (text : String) : Value :=
  if nullWords.contains text then .null
  else
    match parseBool text with
    | some b => .bool b
    | none =>
      match Number.ofText? text with
      | some n => .number n
      | none => .string text

end Yaml

end SealedPillar

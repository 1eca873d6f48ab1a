import SealedPillar.ColonPath
import SealedPillar.Yaml.Load
import SealedPillar.Yaml.Write

/-!
Pillar documents: a mapping of string keys to values, read from and written as YAML.

Reading (`Document.parse`) goes in three steps, the first that applies deciding:

1. a line holding `include:` refuses the text, before anything is parsed;
2. text whose lines are all blank or comments is the empty document;
3. otherwise the first YAML document of the text is loaded; its top level must be a mapping,
   and a null or absent top level is the empty document.

Writing (`Document.toYaml`) gives block YAML with keys in order (`Yaml.Write`).
-/

namespace SealedPillar

inductive DocumentError where
  | includeDetected (file : String)
  | parse (file reason : String)
  | empty (file : String)
  | format (file reason : String)
  deriving Inhabited

namespace DocumentError

def message : DocumentError → String
  | includeDetected file => file ++ " contains include directives"
  | parse file reason => "unable to parse " ++ file ++ ": " ++ reason
  | empty file => file ++ " has no values to format"
  | format file reason => "unable to format " ++ file ++ ": " ++ reason

def inFile (name : String) : DocumentError → DocumentError
  | includeDetected _ => includeDetected name
  | parse _ reason => parse name reason
  | empty _ => empty name
  | format _ reason => format name reason

end DocumentError

def includeToken : String := "include:"

def hasInclude (text : String) : Bool :=
  (Text.lines text).any fun line => Text.contains line includeToken

/-- Whether every line is blank or a comment. -/
def isBlankText (text : String) : Bool :=
  (Text.lines text).all fun line =>
    let t := Text.trim line
    t.isEmpty || t.startsWith "#"

structure Document where
  entries : List (String × Value)
  deriving Inhabited

namespace Document

def empty : Document := ⟨[]⟩

def isEmpty (d : Document) : Bool := d.entries.isEmpty

def keys (d : Document) : List String := d.entries.map (·.1)

def size (d : Document) : Nat := d.entries.length

def loadValue (text : String) : Except String (Option Value) :=
  match Yaml.firstDocumentEvents text with
  | .error e => .error e.message
  | .ok events => Yaml.loadEvents events

def includeLine? (text : String) : Option Nat :=
  ((Text.lines text).zipIdx.find? fun (line, _) => Text.contains line includeToken).map (·.2)

abbrev ParseEvent := String × List (String × String)

/-- Reads a document from text that came from `file`, with the event the reading reports: the
line of the include directive that refuses the text, or the size of the mapping loaded. -/
def parseReport (file text : String) : Except DocumentError Document × Option ParseEvent :=
  match includeLine? text with
  | some i => (.error (.includeDetected file), some ("include directive found",
      [("line", toString (i + 1))]))
  | none =>
    if isBlankText text then (.ok empty, none)
    else
      match loadValue text with
      | .error reason => (.error (.parse file reason), none)
      | .ok none => (.ok empty, none)
      | .ok (some .null) => (.ok empty, none)
      | .ok (some (.mapping es)) =>
        (.ok ⟨es⟩, some ("document parsed", [("keys", toString es.length)]))
      | .ok (some other) =>
        (.error (.parse file ("top level must be a mapping, found " ++ other.kind)), none)

def parseIn (file text : String) : Except DocumentError Document := (parseReport file text).1

def area : String := "secure_pillar::core::document"

def parse (text : String) : Except DocumentError Document := parseIn "input" text

def toYaml (d : Document) : String := Yaml.Write.document d.entries

def get (d : Document) (p : ColonPath) : Option Value := ColonPath.resolve d.entries p

def set (d : Document) (p : ColonPath) (v : Value) : Except PathError Document :=
  (ColonPath.assign d.entries p v).map Document.mk

def element (d : Document) (name : String) : Option Value := Value.lookup name d.entries

def same (a b : Document) : Bool := Value.same (.mapping a.entries) (.mapping b.entries)

end Document

end SealedPillar

import SealedPillar.Text.Escape

/-!
Structured diagnostics: leveled events with named fields, inside named spans.

The library reports what it does through a `Tracer` in whatever monad it runs in. An event has a
level, a message and fields; a span is a named group of fields that every event emitted inside it
carries. Field values are kept as the text they print as: a string field prints quoted with
escapes (`Trace.quoted`), a displayed value prints as it is.
-/

namespace SealedPillar

inductive Level where
  | trace
  | debug
  | info
  | warn
  | error
  deriving DecidableEq, Inhabited, Repr

namespace Level

def rank : Level → Nat
  | trace => 0
  | debug => 1
  | info => 2
  | warn => 3
  | error => 4

def name : Level → String
  | trace => "TRACE"
  | debug => "DEBUG"
  | info => "INFO"
  | warn => "WARN"
  | error => "ERROR"

end Level

/-- A span field's value: a string the span records as text, printed quoted, or a value it
displays, printed as it is. Filters match the text itself either way. -/
inductive FieldValue where
  | text (s : String)
  | shown (s : String)
  deriving Inhabited

namespace FieldValue

def raw : FieldValue → String
  | text s => s
  | shown s => s

def printed : FieldValue → String
  | text s => Text.quoteString s
  | shown s => s

end FieldValue

structure Span where
  area : String
  name : String
  fields : List (String × FieldValue)
  deriving Inhabited

structure Record where
  area : String
  level : Level
  spans : List Span
  message : String
  fields : List (String × String)
  deriving Inhabited

structure Tracer (m : Type → Type) where
  emit : String → Level → String → List (String × String) → m Unit
  within : {α : Type} → Span → m α → m α

namespace Tracer

def silent {m : Type → Type} [Monad m] : Tracer m where
  emit _ _ _ _ := pure ()
  within _ x := x

end Tracer

namespace Trace

def quoted (s : String) : String := Text.quoteString s

end Trace

end SealedPillar

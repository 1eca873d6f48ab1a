import SealedPillar.Yaml.Token.Scan

/-!
Events of a YAML stream, and the parser that turns tokens into them.

The parser is a state machine over the token stream with a stack of states to return to. Each
step reads at most one event's worth of tokens: node starts and ends, scalars (an absent node is
an empty plain scalar), aliases, and document boundaries. Anchors are numbered from one in the
order they appear; an alias event carries the number of the anchor it names. Tags are resolved
against the `%TAG` directives of the document, `!!` standing for `tag:yaml.org,2002:`.

`Yaml.firstDocumentEvents` runs the parser over the first document of a text and returns that
document's node events, or the first scan or parse error.
-/

namespace SealedPillar

namespace Yaml

structure Tag where
  handle : String
  suffix : String
  deriving Inhabited

inductive Event where
  | streamStart
  | streamEnd
  | documentStart
  | documentEnd
  /-- An alias, by the number of its anchor. -/
  | alias (anchor : Nat)
  /-- A scalar with its style, its anchor number (zero for none) and tag. -/
  | scalar (text : String) (style : ScalarStyle) (anchor : Nat) (tag : Option Tag)
  | sequenceStart (anchor : Nat) (tag : Option Tag)
  | sequenceEnd
  | mappingStart (anchor : Nat) (tag : Option Tag)
  | mappingEnd
  deriving Inhabited

def Event.emptyScalar : Event := .scalar "" .plain 0 none

inductive ParseState where
  | streamStart
  | implicitDocumentStart
  | documentStart
  | documentContent
  | documentEnd
  | blockNode
  | blockMappingFirstKey
  | blockMappingKey
  | blockMappingValue
  | blockSequenceFirstEntry
  | blockSequenceEntry
  | flowSequenceFirstEntry
  | flowSequenceEntry
  | flowMappingFirstKey
  | flowMappingKey
  | flowMappingValue
  | indentlessSequenceEntry
  | flowSequenceEntryMappingKey
  | flowSequenceEntryMappingValue
  | flowSequenceEntryMappingEnd
  | flowMappingEmptyValue
  | finished
  deriving Inhabited, DecidableEq

structure Parser where
  scanner : Scanner
  state : ParseState
  states : Array ParseState
  token : Option Token
  anchors : List (String × Nat)
  anchorCount : Nat
  tags : List (String × String)
  deriving Inhabited

def Parser.ofString (text : String) : Parser :=
  { scanner := Scanner.ofString text, state := .streamStart, states := #[], token := none
    anchors := [], anchorCount := 1, tags := [] }

abbrev ParseM := StateT Parser (Except ScanError)

namespace Parse

def fail {α : Type} (m : Mark) (info : String) : ParseM α := throw ⟨m, info⟩

def peekToken : ParseM Token := do
  let p ← get
  match p.token with
  | some t => return t
  | none =>
    match Scan.nextToken.run p.scanner with
    | .error e => throw e
    | .ok (none, sc) => throw ⟨sc.mark, "unexpected eof"⟩
    | .ok (some t, sc) =>
      set { p with scanner := sc, token := some t }
      return t

def peekKind : ParseM TokenKind := return (← peekToken).kind

def skip : ParseM Unit := modify fun p => { p with token := none }

def setState (st : ParseState) : ParseM Unit := modify fun p => { p with state := st }

def pushState (st : ParseState) : ParseM Unit :=
  modify fun p => { p with states := p.states.push st }

def popState : ParseM Unit := modify fun p =>
  { p with state := p.states.back?.getD .finished, states := p.states.pop }

def registerAnchor (name : String) : ParseM Nat := do
  let p ← get
  let id := p.anchorCount
  set { p with anchorCount := id + 1, anchors := (name, id) :: p.anchors.filter (·.1 != name) }
  return id

def lookupTag (p : Parser) (handle : String) : Option String :=
  (p.tags.find? (·.1 == handle)).map (·.2)

def resolveTag (m : Mark) (handle suffix : String) : ParseM Tag := do
  let p ← get
  if handle == "!!" then
    return ⟨(lookupTag p "!!").getD "tag:yaml.org,2002:", suffix⟩
  else if handle.isEmpty && suffix == "!" then
    return ⟨(lookupTag p "").getD "", suffix⟩
  else
    match lookupTag p handle with
    | some pfx => return ⟨pfx, suffix⟩
    | none =>
      if handle.length ≥ 2 && handle.startsWith "!" && handle.endsWith "!" then
        fail m "the handle wasn't declared"
      return ⟨handle, suffix⟩

def processDirectives : ParseM Unit := do
  let mut versionSeen := false
  for _ in [0:(← get).scanner.remaining + 1] do
    let t ← peekToken
    match t.kind with
    | .versionDirective _ _ =>
      if versionSeen then fail t.mark "duplicate version directive"
      versionSeen := true
      modify fun p => { p with tags := [] }
    | .tagDirective handle pfx =>
      modify fun p => { p with tags := [(handle, pfx)] }
    | _ => break
    skip

def explicitDocumentStart : ParseM Event := do
  processDirectives
  let t ← peekToken
  match t.kind with
  | .documentStart =>
    pushState .documentEnd
    setState .documentContent
    skip
    return .documentStart
  | _ => fail t.mark "did not find expected <document start>"

def documentStart (implicit : Bool) : ParseM Event := do
  for _ in [0:(← get).scanner.remaining + 1] do
    match ← peekKind with
    | .documentEnd => skip
    | _ => break
  let t ← peekToken
  match t.kind with
  | .streamEnd =>
    setState .finished
    skip
    return .streamEnd
  | .versionDirective _ _ | .tagDirective _ _ | .documentStart => explicitDocumentStart
  | _ =>
    if implicit then
      processDirectives
      pushState .documentEnd
      setState .blockNode
      return .documentStart
    else explicitDocumentStart

def documentEnd : ParseM Event := do
  let t ← peekToken
  let explicit ←
    match t.kind with
    | .documentEnd => do
      skip
      pure true
    | _ => pure false
  modify fun p => { p with tags := [] }
  if explicit then setState .implicitDocumentStart
  else
    let t ← peekToken
    match t.kind with
    | .versionDirective _ _ | .tagDirective _ _ =>
      fail t.mark "missing explicit document end marker before directive"
    | _ => setState .documentStart
  return .documentEnd

def parseNode (block indentlessSequence : Bool) : ParseM Event := do
  let mut anchor := 0
  let mut tag : Option Tag := none
  let t ← peekToken
  match t.kind with
  | .alias name =>
    popState
    skip
    match (← get).anchors.find? (·.1 == name) with
    | none => fail t.mark "while parsing node, found unknown anchor"
    | some (_, id) => return .alias id
  | .anchor name =>
    skip
    anchor ← registerAnchor name
    let t2 ← peekToken
    match t2.kind with
    | .tag handle suffix =>
      skip
      tag := some (← resolveTag t.mark handle suffix)
    | _ => pure ()
  | .tag handle suffix =>
    skip
    tag := some (← resolveTag t.mark handle suffix)
    let t2 ← peekToken
    match t2.kind with
    | .anchor name =>
      skip
      anchor ← registerAnchor name
    | _ => pure ()
  | _ => pure ()
  let t ← peekToken
  match t.kind with
  | .blockEntry =>
    if indentlessSequence then
      setState .indentlessSequenceEntry
      return .sequenceStart anchor tag
  | .scalar style text =>
    popState
    skip
    return .scalar text style anchor tag
  | .flowSequenceStart =>
    setState .flowSequenceFirstEntry
    return .sequenceStart anchor tag
  | .flowMappingStart =>
    setState .flowMappingFirstKey
    return .mappingStart anchor tag
  | .blockSequenceStart =>
    if block then
      setState .blockSequenceFirstEntry
      return .sequenceStart anchor tag
  | .blockMappingStart =>
    if block then
      setState .blockMappingFirstKey
      return .mappingStart anchor tag
  | _ => pure ()
  if tag.isSome || anchor > 0 then
    popState
    return .scalar "" .plain anchor tag
  fail t.mark "while parsing a node, did not find expected node content"

def documentContent : ParseM Event := do
  match ← peekKind with
  | .versionDirective _ _ | .tagDirective _ _ | .documentStart | .documentEnd | .streamEnd =>
    popState
    return Event.emptyScalar
  | _ => parseNode true false

def blockMappingKey (first : Bool) : ParseM Event := do
  if first then
    let _ ← peekToken
    skip
  let t ← peekToken
  match t.kind with
  | .key =>
    skip
    match ← peekKind with
    | .key | .value | .blockEnd =>
      setState .blockMappingValue
      return Event.emptyScalar
    | _ =>
      pushState .blockMappingValue
      parseNode true true
  | .value =>
    setState .blockMappingValue
    return Event.emptyScalar
  | .blockEnd =>
    popState
    skip
    return .mappingEnd
  | _ => fail t.mark "while parsing a block mapping, did not find expected key"

def blockMappingValue : ParseM Event := do
  match ← peekKind with
  | .value =>
    skip
    match ← peekKind with
    | .key | .value | .blockEnd =>
      setState .blockMappingKey
      return Event.emptyScalar
    | _ =>
      pushState .blockMappingKey
      parseNode true true
  | _ =>
    setState .blockMappingKey
    return Event.emptyScalar

def blockSequenceEntry (first : Bool) : ParseM Event := do
  if first then
    let _ ← peekToken
    skip
  let t ← peekToken
  match t.kind with
  | .blockEnd =>
    popState
    skip
    return .sequenceEnd
  | .blockEntry =>
    skip
    match ← peekKind with
    | .blockEntry | .blockEnd =>
      setState .blockSequenceEntry
      return Event.emptyScalar
    | _ =>
      pushState .blockSequenceEntry
      parseNode true false
  | _ => fail t.mark "while parsing a block collection, did not find expected '-' indicator"

def indentlessSequenceEntry : ParseM Event := do
  match ← peekKind with
  | .blockEntry =>
    skip
    match ← peekKind with
    | .blockEntry | .key | .value | .blockEnd =>
      setState .indentlessSequenceEntry
      return Event.emptyScalar
    | _ =>
      pushState .indentlessSequenceEntry
      parseNode true false
  | _ =>
    popState
    return .sequenceEnd

def flowSequenceEntry (first : Bool) : ParseM Event := do
  if first then
    let _ ← peekToken
    skip
  let t ← peekToken
  match t.kind with
  | .flowSequenceEnd =>
    popState
    skip
    return .sequenceEnd
  | .flowEntry => if !first then skip
  | _ => if !first then fail t.mark "while parsing a flow sequence, expected ',' or ']'"
  match ← peekKind with
  | .flowSequenceEnd =>
    popState
    skip
    return .sequenceEnd
  | .key =>
    setState .flowSequenceEntryMappingKey
    skip
    return .mappingStart 0 none
  | _ =>
    pushState .flowSequenceEntry
    parseNode false false

def flowSequenceEntryMappingKey : ParseM Event := do
  match ← peekKind with
  | .value | .flowEntry | .flowSequenceEnd =>
    skip
    setState .flowSequenceEntryMappingValue
    return Event.emptyScalar
  | _ =>
    pushState .flowSequenceEntryMappingValue
    parseNode false false

def flowSequenceEntryMappingValue : ParseM Event := do
  match ← peekKind with
  | .value =>
    skip
    match ← peekKind with
    | .flowEntry | .flowSequenceEnd =>
      setState .flowSequenceEntryMappingEnd
      return Event.emptyScalar
    | _ =>
      pushState .flowSequenceEntryMappingEnd
      parseNode false false
  | _ =>
    setState .flowSequenceEntryMappingEnd
    return Event.emptyScalar

def flowMappingKey (first : Bool) : ParseM Event := do
  if first then
    let _ ← peekToken
    skip
  let t ← peekToken
  match t.kind with
  | .flowMappingEnd => pure ()
  | _ =>
    if !first then
      match t.kind with
      | .flowEntry => skip
      | _ => fail t.mark "while parsing a flow mapping, did not find expected ',' or '\x7d'"
    match ← peekKind with
    | .key =>
      skip
      match ← peekKind with
      | .value | .flowEntry | .flowMappingEnd =>
        setState .flowMappingValue
        return Event.emptyScalar
      | _ =>
        pushState .flowMappingValue
        return ← parseNode false false
    | .value =>
      setState .flowMappingValue
      return Event.emptyScalar
    | .flowMappingEnd => pure ()
    | _ =>
      pushState .flowMappingEmptyValue
      return ← parseNode false false
  popState
  skip
  return .mappingEnd

def flowMappingValue (empty : Bool) : ParseM Event := do
  if empty then
    let _ ← peekToken
    setState .flowMappingKey
    return Event.emptyScalar
  match ← peekKind with
  | .value =>
    skip
    match ← peekKind with
    | .flowEntry | .flowMappingEnd => pure ()
    | _ =>
      pushState .flowMappingKey
      return ← parseNode false false
  | _ => pure ()
  setState .flowMappingKey
  return Event.emptyScalar

def streamStart : ParseM Event := do
  let t ← peekToken
  match t.kind with
  | .streamStart =>
    setState .implicitDocumentStart
    skip
    return .streamStart
  | _ => fail t.mark "did not find expected <stream-start>"

def nextEvent : ParseM Event := do
  match (← get).state with
  | .streamStart => streamStart
  | .implicitDocumentStart => documentStart true
  | .documentStart => documentStart false
  | .documentContent => documentContent
  | .documentEnd => documentEnd
  | .blockNode => parseNode true false
  | .blockMappingFirstKey => blockMappingKey true
  | .blockMappingKey => blockMappingKey false
  | .blockMappingValue => blockMappingValue
  | .blockSequenceFirstEntry => blockSequenceEntry true
  | .blockSequenceEntry => blockSequenceEntry false
  | .flowSequenceFirstEntry => flowSequenceEntry true
  | .flowSequenceEntry => flowSequenceEntry false
  | .flowMappingFirstKey => flowMappingKey true
  | .flowMappingKey => flowMappingKey false
  | .flowMappingValue => flowMappingValue false
  | .indentlessSequenceEntry => indentlessSequenceEntry
  | .flowSequenceEntryMappingKey => flowSequenceEntryMappingKey
  | .flowSequenceEntryMappingValue => flowSequenceEntryMappingValue
  | .flowSequenceEntryMappingEnd =>
    setState .flowSequenceEntry
    return .mappingEnd
  | .flowMappingEmptyValue => flowMappingValue true
  | .finished => return .streamEnd

def nodeEvents (budget : Nat) : ParseM (List Event) := do
  let mut out : Array Event := #[]
  let mut depth := 0
  for _ in [0:budget] do
    let ev ← nextEvent
    out := out.push ev
    match ev with
    | .sequenceStart _ _ | .mappingStart _ _ => depth := depth + 1
    | .sequenceEnd | .mappingEnd => depth := depth - 1
    | _ => pure ()
    if depth == 0 then break
  return out.toList

/-- The node events of the first document, or none for a stream without documents. -/
def firstDocument : ParseM (List Event) := do
  let budget := 16 * ((← get).scanner.input.size + 8)
  let _ ← nextEvent
  match ← nextEvent with
  | .streamEnd => return []
  | _ =>
    let events ← nodeEvents budget
    let _ ← nextEvent
    return events

end Parse

def firstDocumentEvents (text : String) : Except ScanError (List Event) :=
  (Parse.firstDocument.run' (Parser.ofString text))

end Yaml

end SealedPillar

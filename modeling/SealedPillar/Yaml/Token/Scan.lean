import SealedPillar.Yaml.Token

/-!
Turning YAML text into tokens.

The scanner reads the text one character at a time and keeps the state that block structure
needs: the stack of indentation columns (a column opened by a block collection must be closed by
a `blockEnd` token), the possible simple keys (a scalar or collection that a later `:` turns into
a mapping key, announced by inserting a `key` token before it), and the depth of flow
collections. `Scan.nextToken` hands out one token at a time; it reads ahead only while the token
at the front could still become a key.

Every loop consumes a character per round and is bounded by the length of the text.
-/

namespace SealedPillar

namespace Yaml

structure SimpleKey where
  possible : Bool
  required : Bool
  tokenNumber : Nat
  mark : Mark
  deriving Inhabited

def SimpleKey.unused : SimpleKey := ⟨false, false, 0, ⟨0, 0, 0⟩⟩

structure Indent where
  column : Int
  needsBlockEnd : Bool
  deriving Inhabited

/-- The scanner's state. `pos` is where reading stands in `input`; `mark` is the position that
marks report, which runs ahead of `pos` after block scalar lines (see `Scan.heldAfterIndent`). -/
structure Scanner where
  input : Array Char
  pos : Nat
  mark : Mark
  tokens : Array Token
  streamStartProduced : Bool
  streamEndProduced : Bool
  adjacentValueAllowedAt : Nat
  simpleKeyAllowed : Bool
  simpleKeys : Array SimpleKey
  indent : Int
  indents : Array Indent
  flowLevel : Nat
  tokensParsed : Nat
  tokenAvailable : Bool
  leadingWhitespace : Bool
  flowMappingStarted : Bool
  implicitFlowMappings : Array Bool
  deriving Inhabited

namespace Scanner

def ofString (text : String) : Scanner :=
  { input := text.toList.toArray, pos := 0, mark := ⟨0, 1, 0⟩, tokens := #[], streamStartProduced := false
    streamEndProduced := false, adjacentValueAllowedAt := 0, simpleKeyAllowed := false
    simpleKeys := #[], indent := -1, indents := #[], flowLevel := 0, tokensParsed := 0
    tokenAvailable := false, leadingWhitespace := true, flowMappingStarted := false
    implicitFlowMappings := #[] }

def peek (s : Scanner) (k : Nat) : Char := s.input.getD (s.pos + k) endChar

def remaining (s : Scanner) : Nat := s.input.size - s.pos + 1

def skipCounted (units : Nat) (s : Scanner) : Scanner :=
  let moved : Mark := ⟨s.mark.index + units, s.mark.line, s.mark.col + units⟩
  { s with pos := s.pos + 1, mark := moved }

def skipBlank (s : Scanner) : Scanner := s.skipCounted 1

def skipNonBlank (s : Scanner) : Scanner := { s.skipBlank with leadingWhitespace := false }

def skipNewline (s : Scanner) : Scanner :=
  { s with pos := s.pos + 1, mark := ⟨s.mark.index + 1, s.mark.line + 1, 0⟩,
            leadingWhitespace := true }

def skipLineBreak (s : Scanner) : Scanner :=
  if s.peek 0 == '\r' && s.peek 1 == '\n' then s.skipBlank.skipNewline
  else if isBreak (s.peek 0) then s.skipNewline
  else s

def skipNonBlanks : Nat → Scanner → Scanner
  | 0, s => s
  | n + 1, s => skipNonBlanks n s.skipNonBlank

def readBreak (s : Scanner) (buf : String) : Scanner × String :=
  (s.skipLineBreak, buf.push '\n')

def isWithinBlock (s : Scanner) : Bool := !s.indents.isEmpty

def atDocumentIndicator (s : Scanner) : Bool :=
  s.mark.col == 0 &&
    ((s.peek 0 == '-' && s.peek 1 == '-' && s.peek 2 == '-') ||
      (s.peek 0 == '.' && s.peek 1 == '.' && s.peek 2 == '.')) &&
    isBlankZ (s.peek 3)

def atDocumentEnd (s : Scanner) : Bool :=
  s.mark.col == 0 && s.peek 0 == '.' && s.peek 1 == '.' && s.peek 2 == '.' && isBlankZ (s.peek 3)

end Scanner

abbrev ScanM := StateT Scanner (Except ScanError)

namespace Scan

def fail {α : Type} (m : Mark) (info : String) : ScanM α := throw ⟨m, info⟩

def cur : ScanM Char := return (← get).peek 0

def ahead (k : Nat) : ScanM Char := return (← get).peek k

def mark : ScanM Mark := return (← get).mark

def step (f : Scanner → Scanner) : ScanM Unit := modify f

def fuel : ScanM Nat := return (← get).remaining

def allowSimpleKey : ScanM Unit := modify fun s => { s with simpleKeyAllowed := true }

def disallowSimpleKey : ScanM Unit := modify fun s => { s with simpleKeyAllowed := false }

def pushToken (m : Mark) (k : TokenKind) : ScanM Unit :=
  modify fun s => { s with tokens := s.tokens.push ⟨m, k⟩ }

def insertToken (pos : Nat) (m : Mark) (k : TokenKind) : ScanM Unit :=
  modify fun s => { s with tokens := s.tokens.insertIdxIfInBounds pos ⟨m, k⟩ }

def skipCommentKeepingLead : ScanM Unit := do
  for _ in [0:(← fuel)] do
    let s ← get
    if isBreakZ (s.peek 0) then break
    set s.skipBlank

def skipComment : ScanM Unit := do
  for _ in [0:(← fuel)] do
    let s ← get
    if isBreakZ (s.peek 0) then break
    set s.skipNonBlank

def skipWsToEol (skipTabs : Bool) : ScanM (Bool × Bool) := do
  let mut tab := false
  let mut space := false
  for _ in [0:(← fuel)] do
    let s ← get
    let c := s.peek 0
    if c == ' ' then
      space := true
      set s.skipBlank
    else if c == '\t' && skipTabs then
      tab := true
      set s.skipBlank
    else if c == '#' then
      if !tab && !space then
        fail s.mark "comments must be separated from other tokens by whitespace"
      skipComment
    else break
  return (tab, space)

/-- Skips blanks, line breaks and comments before the next token. A tab may not stand in the
indentation of a block line that has content. -/
def skipToNextToken : ScanM Unit := do
  for _ in [0:(← fuel)] do
    let s ← get
    let c := s.peek 0
    if c == '\t' && s.isWithinBlock && s.leadingWhitespace && (s.mark.col : Int) < s.indent then
      let _ ← skipWsToEol true
      let s ← get
      if !isBreakZ (s.peek 0) then
        fail s.mark "tabs disallowed within this context (block indentation)"
    else if c == '\t' || c == ' ' then set s.skipBlank
    else if isBreak c then
      set s.skipLineBreak
      if s.flowLevel == 0 then allowSimpleKey
    else if c == '#' then skipCommentKeepingLead
    else break

def unrollIndent (col : Int) : ScanM Unit := do
  if (← get).flowLevel > 0 then return
  for _ in [0:(← get).indents.size + 1] do
    let s ← get
    if s.indent ≤ col then break
    match s.indents.back? with
    | none => break
    | some level =>
      set { s with indents := s.indents.pop, indent := level.column }
      if level.needsBlockEnd then pushToken s.mark .blockEnd

def rollIndent (col : Nat) (number : Option Nat) (kind : TokenKind) (m : Mark) : ScanM Unit := do
  let s ← get
  if s.flowLevel > 0 then return
  if s.indent ≤ col then
    match s.indents.back? with
    | some level =>
      if !level.needsBlockEnd then set { s with indent := level.column, indents := s.indents.pop }
    | none => pure ()
  let s ← get
  if s.indent < col then
    set { s with indents := s.indents.push ⟨s.indent, true⟩, indent := col }
    match number with
    | some n => insertToken (n - s.tokensParsed) m kind
    | none => pushToken m kind

def rollOneColIndent : ScanM Unit := do
  let s ← get
  if s.flowLevel == 0 && ((s.indents.back?.map (·.needsBlockEnd)).getD false) then
    set { s with indents := s.indents.push ⟨s.indent, false⟩, indent := s.indent + 1 }

def unrollNonBlockIndents : ScanM Unit := do
  for _ in [0:(← get).indents.size + 1] do
    let s ← get
    match s.indents.back? with
    | some level =>
      if level.needsBlockEnd then break
      set { s with indent := level.column, indents := s.indents.pop }
    | none => break

def saveSimpleKey : ScanM Unit := do
  let s ← get
  if s.simpleKeyAllowed then
    let required :=
      s.flowLevel == 0 && s.indent == (s.mark.col : Int) &&
        ((s.indents.back?.map (·.needsBlockEnd)).getD false)
    let key : SimpleKey :=
      { possible := true, required, tokenNumber := s.tokensParsed + s.tokens.size, mark := s.mark }
    set { s with simpleKeys := s.simpleKeys.pop.push key }

def removeSimpleKey : ScanM Unit := do
  let s ← get
  match s.simpleKeys.back? with
  | some last =>
    if last.possible && last.required then fail s.mark "simple key expected"
    set { s with simpleKeys := s.simpleKeys.pop.push { last with possible := false } }
  | none => pure ()

/-- In block context a simple key ends with its line: a key that had to be one is an error. -/
def staleSimpleKeys : ScanM Unit := do
  let s ← get
  let mut keys := #[]
  for key in s.simpleKeys do
    if key.possible && s.flowLevel == 0 &&
        (key.mark.line < s.mark.line || key.mark.index + 1024 < s.mark.index) then
      if key.required then fail s.mark "simple key expect ':'"
      keys := keys.push { key with possible := false }
    else keys := keys.push key
  set { s with simpleKeys := keys }

def increaseFlowLevel : ScanM Unit := do
  let s ← get
  if s.flowLevel ≥ 255 then fail s.mark "recursion limit exceeded"
  set { s with simpleKeys := s.simpleKeys.push SimpleKey.unused, flowLevel := s.flowLevel + 1 }

def decreaseFlowLevel : ScanM Unit := do
  let s ← get
  if s.flowLevel > 0 then
    set { s with flowLevel := s.flowLevel - 1, simpleKeys := s.simpleKeys.pop }

def endImplicitMapping (m : Mark) : ScanM Unit := do
  let s ← get
  match s.implicitFlowMappings.back? with
  | some true =>
    set { s with flowMappingStarted := false
                 implicitFlowMappings := s.implicitFlowMappings.pop.push false }
    pushToken m .flowMappingEnd
  | _ => pure ()

def fetchStreamStart : ScanM Unit := do
  let s ← get
  set { s with indent := -1, streamStartProduced := true, simpleKeyAllowed := true
               simpleKeys := s.simpleKeys.push SimpleKey.unused }
  pushToken s.mark .streamStart

def fetchStreamEnd : ScanM Unit := do
  let s ← get
  if s.mark.col != 0 then set { s with mark := { s.mark with col := 0, line := s.mark.line + 1 } }
  let s ← get
  let mut keys := #[]
  for key in s.simpleKeys do
    if key.required && key.possible then fail s.mark "simple key expected"
    keys := keys.push { key with possible := false }
  set { s with simpleKeys := keys }
  unrollIndent (-1)
  removeSimpleKey
  disallowSimpleKey
  pushToken (← mark) .streamEnd

def scanAlphaRun : ScanM String := do
  let mut out := ""
  for _ in [0:(← fuel)] do
    let s ← get
    if !isAlpha (s.peek 0) then break
    out := out.push (s.peek 0)
    set s.skipNonBlank
  return out

def skipBlanksOnly : ScanM Unit := do
  for _ in [0:(← fuel)] do
    let s ← get
    if !isBlank (s.peek 0) then break
    set s.skipBlank

def scanDirectiveName : ScanM String := do
  let start ← mark
  let name ← scanAlphaRun
  if name.isEmpty then
    fail start "while scanning a directive, could not find expected directive name"
  if !isBlankZ (← cur) then
    fail start "while scanning a directive, found unexpected non-alphabetical character"
  return name

def scanVersionNumber (start : Mark) : ScanM Nat := do
  let mut value := 0
  let mut length := 0
  for _ in [0:(← fuel)] do
    let s ← get
    let c := s.peek 0
    if !isDigit c then break
    if length + 1 > 9 then
      fail start "while scanning a YAML directive, found extremely long version number"
    length := length + 1
    value := value * 10 + (c.toNat - '0'.toNat)
    set s.skipNonBlank
  if length == 0 then
    fail start "while scanning a YAML directive, did not find expected version number"
  return value

def scanVersionDirectiveValue (start : Mark) : ScanM Token := do
  skipBlanksOnly
  let major ← scanVersionNumber start
  if (← cur) != '.' then
    fail start "while scanning a YAML directive, did not find expected digit or '.' character"
  step Scanner.skipNonBlank
  let minor ← scanVersionNumber start
  return ⟨start, .versionDirective major minor⟩

def scanUriEscapes (start : Mark) : ScanM Char := do
  let mut width := 0
  let mut code := 0
  for _ in [0:4] do
    let s ← get
    if !(s.peek 0 == '%' && isHex (s.peek 1) && isHex (s.peek 2)) then
      fail start "while parsing a tag, did not find URI escaped octet"
    let octet := hexValue (s.peek 1) * 16 + hexValue (s.peek 2)
    if width == 0 then
      width ←
        if octet &&& 0x80 == 0 then pure 1
        else if octet &&& 0xE0 == 0xC0 then pure 2
        else if octet &&& 0xF0 == 0xE0 then pure 3
        else if octet &&& 0xF8 == 0xF0 then pure 4
        else fail start "while parsing a tag, found an incorrect leading UTF-8 octet"
      code := octet
    else
      if octet &&& 0xC0 != 0x80 then
        fail start "while parsing a tag, found an incorrect trailing UTF-8 octet"
      code := code * 256 + octet
    set (Scanner.skipNonBlanks 3 s)
    width := width - 1
    if width == 0 then break
  if code < 0xD800 || (0xDFFF < code && code < 0x110000) then return Char.ofNat code
  fail start "while parsing a tag, found an invalid UTF-8 codepoint"

def scanTagHandle (directive : Bool) (start : Mark) : ScanM String := do
  if (← cur) != '!' then fail start "while scanning a tag, did not find expected '!'"
  step Scanner.skipNonBlank
  let name ← scanAlphaRun
  let handle := "!" ++ name
  if (← cur) == '!' then
    step Scanner.skipNonBlank
    return handle.push '!'
  if directive && handle != "!" then
    fail start "while parsing a tag directive, did not find expected '!'"
  return handle

def scanUriRun (start : Mark) (ok : Char → Bool) (init : String) : ScanM String := do
  let mut out := init
  for _ in [0:(← fuel)] do
    let c ← cur
    if !ok c then break
    if c == '%' then out := out.push (← scanUriEscapes start)
    else
      out := out.push c
      step Scanner.skipNonBlank
  return out

def scanTagPrefix (start : Mark) : ScanM String := do
  let c ← cur
  let first ←
    if c == '!' then do
      step Scanner.skipNonBlank
      pure "!"
    else if !isTagChar c then fail start "invalid global tag character"
    else if c == '%' then do
      let d ← scanUriEscapes start
      pure (String.singleton d)
    else do
      step Scanner.skipNonBlank
      pure (String.singleton c)
  scanUriRun start isUriChar first

def scanTagDirectiveValue (start : Mark) : ScanM Token := do
  skipBlanksOnly
  let handle ← scanTagHandle true start
  skipBlanksOnly
  let pfx ← scanTagPrefix start
  if isBlankZ (← cur) then return ⟨start, .tagDirective handle pfx⟩
  fail start "while scanning TAG, did not find expected whitespace or line break"

def scanDirective : ScanM Token := do
  let start ← mark
  step Scanner.skipNonBlank
  let name ← scanDirectiveName
  let tok ←
    if name == "YAML" then scanVersionDirectiveValue start
    else if name == "TAG" then scanTagDirectiveValue start
    else do
      for _ in [0:(← fuel)] do
        let s ← get
        if isBreakZ (s.peek 0) then break
        set s.skipNonBlank
      pure ⟨start, .tagDirective "" ""⟩
  let _ ← skipWsToEol true
  if !isBreakZ (← cur) then
    fail start "while scanning a directive, did not find expected comment or line break"
  if isBreak (← cur) then step Scanner.skipLineBreak
  return tok

def fetchDirective : ScanM Unit := do
  unrollIndent (-1)
  removeSimpleKey
  disallowSimpleKey
  let tok ← scanDirective
  modify fun s => { s with tokens := s.tokens.push tok }

def fetchDocumentIndicator (kind : TokenKind) : ScanM Unit := do
  unrollIndent (-1)
  removeSimpleKey
  disallowSimpleKey
  let m ← mark
  step (Scanner.skipNonBlanks 3)
  pushToken m kind

def fetchFlowCollectionStart (sequence : Bool) : ScanM Unit := do
  saveSimpleKey
  rollOneColIndent
  increaseFlowLevel
  allowSimpleKey
  let m ← mark
  step Scanner.skipNonBlank
  if sequence then
    modify fun s => { s with implicitFlowMappings := s.implicitFlowMappings.push false }
  else modify fun s => { s with flowMappingStarted := true }
  let _ ← skipWsToEol true
  pushToken m (if sequence then .flowSequenceStart else .flowMappingStart)

def fetchFlowCollectionEnd (sequence : Bool) : ScanM Unit := do
  removeSimpleKey
  decreaseFlowLevel
  disallowSimpleKey
  if sequence then
    endImplicitMapping (← mark)
    modify fun s => { s with implicitFlowMappings := s.implicitFlowMappings.pop }
  let m ← mark
  step Scanner.skipNonBlank
  let _ ← skipWsToEol true
  let s ← get
  if s.flowLevel > 0 then set { s with adjacentValueAllowedAt := s.mark.index }
  pushToken m (if sequence then .flowSequenceEnd else .flowMappingEnd)

def fetchFlowEntry : ScanM Unit := do
  removeSimpleKey
  allowSimpleKey
  endImplicitMapping (← mark)
  let m ← mark
  step Scanner.skipNonBlank
  let _ ← skipWsToEol true
  pushToken m .flowEntry

def fetchBlockEntry : ScanM Unit := do
  let s ← get
  if s.flowLevel > 0 then fail s.mark "\"-\" is only valid inside a block"
  if !s.simpleKeyAllowed then fail s.mark "block sequence entries are not allowed in this context"
  match s.tokens.back? with
  | some ⟨m, .anchor _⟩ | some ⟨m, .tag _ _⟩ =>
    if s.mark.col == 0 && m.col == 0 && s.indent > -1 then
      fail m "invalid indentation for anchor"
  | _ => pure ()
  let m ← mark
  step Scanner.skipNonBlank
  rollIndent m.col none .blockSequenceStart m
  let (tabs, _) ← skipWsToEol true
  let s ← get
  if tabs && s.peek 0 == '-' && isBlankZ (s.peek 1) then
    fail s.mark "'-' must be followed by a valid YAML whitespace"
  let _ ← skipWsToEol false
  let s ← get
  if isBreak (s.peek 0) || isFlow (s.peek 0) then rollOneColIndent
  removeSimpleKey
  allowSimpleKey
  pushToken (← mark) .blockEntry

def skipYamlWhitespace : ScanM Unit := do
  let mut needWhitespace := true
  for _ in [0:(← fuel)] do
    let s ← get
    let c := s.peek 0
    if c == ' ' then
      set s.skipBlank
      needWhitespace := false
    else if isBreak c then
      set s.skipLineBreak
      if s.flowLevel == 0 then allowSimpleKey
      needWhitespace := false
    else if c == '#' then skipCommentKeepingLead
    else break
  if needWhitespace then fail (← mark) "expected whitespace"

def fetchKey : ScanM Unit := do
  let s ← get
  let start := s.mark
  if s.flowLevel == 0 then
    if !s.simpleKeyAllowed then fail s.mark "mapping keys are not allowed in this context"
    rollIndent start.col none .blockMappingStart start
  else modify fun s => { s with flowMappingStarted := true }
  removeSimpleKey
  if (← get).flowLevel == 0 then allowSimpleKey else disallowSimpleKey
  step Scanner.skipNonBlank
  skipYamlWhitespace
  if (← cur) == '\t' then fail (← mark) "tabs disallowed in this context"
  pushToken start .key

def fetchValue : ScanM Unit := do
  let s ← get
  let key := s.simpleKeys.back?.getD SimpleKey.unused
  let start := s.mark
  let implicit := !s.implicitFlowMappings.isEmpty && !s.flowMappingStarted
  if implicit then
    set { s with implicitFlowMappings := s.implicitFlowMappings.pop.push true }
  step Scanner.skipNonBlank
  if (← cur) == '\t' then
    let (_, space) ← skipWsToEol true
    let c ← cur
    if !space && (c == '-' || isAlpha c) then
      fail (← mark) "':' must be followed by a valid YAML whitespace"
  if key.possible then
    let parsed := (← get).tokensParsed
    insertToken (key.tokenNumber - parsed) key.mark .key
    if implicit then
      if key.mark.line < start.line then fail start "illegal placement of ':' indicator"
      insertToken (key.tokenNumber - parsed) (← mark) .flowMappingStart
    rollIndent key.mark.col (some key.tokenNumber) .blockMappingStart start
    rollOneColIndent
    modify fun s =>
      { s with simpleKeys := s.simpleKeys.pop.push { key with possible := false } }
    disallowSimpleKey
  else
    if implicit then pushToken (← mark) .flowMappingStart
    if (← get).flowLevel == 0 then
      if !(← get).simpleKeyAllowed then
        fail start "mapping values are not allowed in this context"
      rollIndent start.col none .blockMappingStart start
    rollOneColIndent
    if (← get).flowLevel == 0 then allowSimpleKey else disallowSimpleKey
  pushToken (← mark) .value

def fetchFlowValue : ScanM Unit := do
  let s ← get
  let nc := s.peek 1
  if s.mark.index != s.adjacentValueAllowedAt && (nc == '[' || nc == '{') then
    fail s.mark "':' may not precede any of `[\x7b` in flow mapping"
  fetchValue

def scanAnchor (isAlias : Bool) : ScanM Token := do
  let start ← mark
  step Scanner.skipNonBlank
  let mut name := ""
  for _ in [0:(← fuel)] do
    let s ← get
    if !isAnchorChar (s.peek 0) then break
    name := name.push (s.peek 0)
    set s.skipNonBlank
  if name.isEmpty then
    fail start
      "while scanning an anchor or alias, did not find expected alphabetic or numeric character"
  return ⟨start, if isAlias then .alias name else .anchor name⟩

def fetchAnchor (isAlias : Bool) : ScanM Unit := do
  saveSimpleKey
  disallowSimpleKey
  let tok ← scanAnchor isAlias
  modify fun s => { s with tokens := s.tokens.push tok }

def scanVerbatimTag (start : Mark) : ScanM String := do
  step (Scanner.skipNonBlanks 2)
  let out ← scanUriRun start isUriChar ""
  if (← cur) != '>' then
    fail start "while scanning a verbatim tag, did not find the expected '>'"
  step Scanner.skipNonBlank
  return out

def scanTagShorthandSuffix (head : String) (start : Mark) : ScanM String := do
  let init := if head.length > 1 then String.ofList (head.toList.drop 1) else ""
  let out ← scanUriRun start isTagChar init
  if head.length + (out.length - init.length) == 0 then
    fail start "while parsing a tag, did not find expected tag URI"
  return out

def scanTag : ScanM Token := do
  let start ← mark
  let (handle, suffix) ←
    if (← ahead 1) == '<' then do
      let suffix ← scanVerbatimTag start
      pure ("", suffix)
    else do
      let handle ← scanTagHandle false start
      if handle.length ≥ 2 && handle.startsWith "!" && handle.endsWith "!" then
        let suffix ← scanTagShorthandSuffix "" start
        pure (handle, suffix)
      else
        let suffix ← scanTagShorthandSuffix handle start
        if suffix.isEmpty then pure ("", "!") else pure ("!", suffix)
  let s ← get
  if isBlankZ (s.peek 0) || (s.flowLevel > 0 && isFlow (s.peek 0)) then
    return ⟨start, .tag handle suffix⟩
  fail start "while scanning a tag, did not find expected whitespace or line break"

def fetchTag : ScanM Unit := do
  saveSimpleKey
  disallowSimpleKey
  let tok ← scanTag
  modify fun s => { s with tokens := s.tokens.push tok }

def scanEscape (start : Mark) : ScanM Char := do
  let c ← ahead 1
  let (fixed, width) : Option Char × Nat :=
    if c == '0' then (some '\x00', 0)
    else if c == 'a' then (some '\x07', 0)
    else if c == 'b' then (some '\x08', 0)
    else if c == 't' || c == '\t' then (some '\t', 0)
    else if c == 'n' then (some '\n', 0)
    else if c == 'v' then (some '\x0b', 0)
    else if c == 'f' then (some '\x0c', 0)
    else if c == 'r' then (some '\r', 0)
    else if c == 'e' then (some '\x1b', 0)
    else if c == ' ' then (some ' ', 0)
    else if c == '"' then (some '"', 0)
    else if c == '/' then (some '/', 0)
    else if c == '\\' then (some '\\', 0)
    else if c == 'N' then (some '\u0085', 0)
    else if c == '_' then (some ' ', 0)
    else if c == 'L' then (some ' ', 0)
    else if c == 'P' then (some ' ', 0)
    else if c == 'x' then (none, 2)
    else if c == 'u' then (none, 4)
    else if c == 'U' then (none, 8)
    else (none, 0)
  if fixed.isNone && width == 0 then
    fail start "while parsing a quoted scalar, found unknown escape character"
  step (Scanner.skipNonBlanks 2)
  match fixed with
  | some d => return d
  | none =>
    let s ← get
    let digits := (List.range width).map s.peek
    if !digits.all isHex then
      fail start "while parsing a quoted scalar, did not find expected hexadecimal number"
    let code := digits.foldl (fun acc d => acc * 16 + hexValue d) 0
    if !(code < 0xD800 || (0xDFFF < code && code < 0x110000)) then
      fail start "while parsing a quoted scalar, found invalid Unicode character escape code"
    set (Scanner.skipNonBlanks width s)
    return Char.ofNat code

def scanQuotedRun (single : Bool) (start : Mark) (text : String) : ScanM (String × Bool) := do
  let mut out := text
  let mut escapedBreak := false
  for _ in [0:(← fuel)] do
    let s ← get
    let c := s.peek 0
    if isBlankZ c then break
    if c == '\'' && s.peek 1 == '\'' && single then
      out := out.push '\''
      set (Scanner.skipNonBlanks 2 s)
    else if c == '\'' && single then break
    else if c == '"' && !single then break
    else if c == '\\' && !single && isBreak (s.peek 1) then
      set s.skipNonBlank.skipLineBreak
      escapedBreak := true
      break
    else if c == '\\' && !single then out := out.push (← scanEscape start)
    else
      out := out.push c
      set s.skipNonBlank
  return (out, escapedBreak)

def scanFlowScalar (single : Bool) : ScanM Token := do
  let start ← mark
  step Scanner.skipNonBlank
  let mut text := ""
  let mut leadingBreak := ""
  let mut trailingBreaks := ""
  let mut whitespaces := ""
  for _ in [0:(← fuel)] do
    let s ← get
    if s.atDocumentIndicator then
      fail start "while scanning a quoted scalar, found unexpected document indicator"
    if isZ (s.peek 0) then
      fail start "while scanning a quoted scalar, found unexpected end of stream"
    if (s.mark.col : Int) < s.indent then
      fail start "invalid indentation in quoted scalar"
    let (t, escapedBreak) ← scanQuotedRun single start text
    text := t
    let mut leadingBlanks := escapedBreak
    let c ← cur
    if (c == '\'' && single) || (c == '"' && !single) then break
    for _ in [0:(← fuel)] do
      let s ← get
      let c := s.peek 0
      if !(isBlank c || isBreak c) then break
      if isBlank c then
        if leadingBlanks then
          if c == '\t' && (s.mark.col : Int) < s.indent then
            fail s.mark "tab cannot be used as indentation"
          set s.skipBlank
        else
          whitespaces := whitespaces.push c
          set s.skipBlank
      else if leadingBlanks then
        let (s2, b) := s.readBreak trailingBreaks
        set s2
        trailingBreaks := b
      else
        whitespaces := ""
        let (s2, b) := s.readBreak leadingBreak
        set s2
        leadingBreak := b
        leadingBlanks := true
    if leadingBlanks then
      if leadingBreak.isEmpty then
        text := text ++ trailingBreaks
        trailingBreaks := ""
      else
        if trailingBreaks.isEmpty then text := text.push ' '
        else
          text := text ++ trailingBreaks
          trailingBreaks := ""
        leadingBreak := ""
    else
      text := text ++ whitespaces
      whitespaces := ""
  step Scanner.skipNonBlank
  let _ ← skipWsToEol true
  let s ← get
  let c := s.peek 0
  let fine :=
    ((c == ',' || c == '}' || c == ']') && s.flowLevel > 0) || isBreakZ c ||
      (c == ':' && s.flowLevel == 0 && start.line == s.mark.line) ||
      (c == ':' && s.flowLevel > 0)
  if !fine then fail s.mark "invalid trailing content after double-quoted scalar"
  return ⟨start, .scalar (if single then .singleQuoted else .doubleQuoted) text⟩

def fetchFlowScalar (single : Bool) : ScanM Unit := do
  saveSimpleKey
  disallowSimpleKey
  let tok ← scanFlowScalar single
  skipToNextToken
  modify fun s => { s with adjacentValueAllowedAt := s.mark.index, tokens := s.tokens.push tok }

def skipBlockScalarFirstIndent (breaks : String) : ScanM (Nat × String) := do
  let mut maxIndent := 0
  let mut out := breaks
  for _ in [0:(← fuel)] do
    for _ in [0:(← fuel)] do
      let s ← get
      if s.peek 0 != ' ' then break
      set s.skipBlank
    let s ← get
    if s.mark.col > maxIndent then maxIndent := s.mark.col
    if isBreak (s.peek 0) then
      let (s2, b) := s.readBreak out
      set s2
      out := b
    else break
  let s ← get
  let floor : Nat := (s.indent + 1).toNat
  let indent := max maxIndent floor
  let indent := if s.indent > 0 then max indent 1 else indent
  return (indent, out)

def skipBlockScalarIndent (indent : Nat) (breaks : String) : ScanM String := do
  let mut out := breaks
  for _ in [0:(← fuel)] do
    for _ in [0:(← fuel)] do
      let s ← get
      if !(s.mark.col < indent && s.peek 0 == ' ') then break
      set s.skipBlank
    let s ← get
    if isBreak (s.peek 0) then
      let (s2, b) := s.readBreak out
      set s2
      out := b
    else break
  return out

/-- How many characters of a block scalar line the reader already holds once the line's
indentation is skipped. It tops a window of 16 characters up at the start of the line, and
refills it whenever skipping indentation empties it, keeping at least two. Characters it holds
count one position each in marks; the rest of the line is read in one piece and counted by its
UTF-8 bytes. -/
def heldAfterIndent (indent : Nat) : Nat :=
  if indent < 14 then 16 - indent else max 2 ((16 - indent % 16) % 16)

inductive Chomping where
  | strip
  | clip
  | keep
  deriving DecidableEq

def scanBlockScalar (literal : Bool) : ScanM Token := do
  let start ← mark
  let style : ScalarStyle := if literal then .literal else .folded
  step Scanner.skipNonBlank
  unrollNonBlockIndents
  let mut chomping := Chomping.clip
  let mut increment := 0
  let c ← cur
  if c == '+' || c == '-' then
    chomping := if c == '+' then .keep else .strip
    step Scanner.skipNonBlank
    let d ← cur
    if isDigit d then
      if d == '0' then
        fail start "while scanning a block scalar, found an indentation indicator equal to 0"
      increment := d.toNat - '0'.toNat
      step Scanner.skipNonBlank
  else if isDigit c then
    if c == '0' then
      fail start "while scanning a block scalar, found an indentation indicator equal to 0"
    increment := c.toNat - '0'.toNat
    step Scanner.skipNonBlank
    let d ← cur
    if d == '+' || d == '-' then
      chomping := if d == '+' then .keep else .strip
      step Scanner.skipNonBlank
  let _ ← skipWsToEol true
  if !isBreakZ (← cur) then
    fail start "while scanning a block scalar, did not find expected comment or line break"
  let mut chompingBreak := ""
  if isBreak (← cur) then
    let (s2, b) := (← get).readBreak chompingBreak
    set s2
    chompingBreak := b
  if (← cur) == '\t' then fail start "a block scalar content cannot start with a tab"
  let s ← get
  let mut indent : Nat := 0
  if increment > 0 then
    indent := if s.indent ≥ 0 then (s.indent + increment).toNat else increment
  let mut trailingBreaks := ""
  -- a first line found by looking one character at a time is held one character deep
  let mut held := 1
  if indent == 0 then
    let (i, b) ← skipBlockScalarFirstIndent trailingBreaks
    indent := i
    trailingBreaks := b
  else
    trailingBreaks ← skipBlockScalarIndent indent trailingBreaks
    held := heldAfterIndent indent
  -- at indentation 0 each line is looked at four characters deep for a document marker
  if indent == 0 then held := max held 4
  let s ← get
  if isZ (s.peek 0) then
    let contents :=
      if chomping == .strip then ""
      else if s.mark.line == start.line then ""
      else if chomping == .clip then chompingBreak
      else if trailingBreaks.isEmpty then chompingBreak
      else trailingBreaks
    return ⟨start, .scalar style contents⟩
  if s.mark.col < indent && (s.mark.col : Int) > s.indent then
    fail s.mark "wrongly indented line in block scalar"
  let contentStart := s.mark
  let mut text := ""
  let mut leadingBreak := ""
  let mut leadingBlank := false
  for _ in [0:(← fuel)] do
    let s ← get
    if !(s.mark.col == indent && !isZ (s.peek 0)) then break
    if indent == 0 && s.atDocumentIndicator then break
    let trailingBlank := isBlank (s.peek 0)
    if !literal && !leadingBreak.isEmpty && !leadingBlank && !trailingBlank then
      text := text ++ trailingBreaks
      if trailingBreaks.isEmpty then text := text.push ' '
    else
      text := text ++ leadingBreak ++ trailingBreaks
    leadingBreak := ""
    trailingBreaks := ""
    leadingBlank := isBlank (s.peek 0)
    let mut counted := 0
    for _ in [0:(← fuel)] do
      let s ← get
      let c := s.peek 0
      if isBreakZ c then break
      text := text.push c
      let units := if counted < held then 1 else c.utf8Size
      set { s.skipCounted units with leadingWhitespace := false }
      counted := counted + 1
    let s ← get
    if isZ (s.peek 0) then break
    let (s2, b) := s.readBreak leadingBreak
    set s2
    leadingBreak := b
    trailingBreaks ← skipBlockScalarIndent indent trailingBreaks
    held := max (heldAfterIndent indent) (if indent == 0 then 4 else 0)
  let s ← get
  if chomping != .strip then
    text := text ++ leadingBreak
    if isZ (s.peek 0) && s.mark.col ≥ max indent 1 then text := text.push '\n'
  if chomping == .keep then text := text ++ trailingBreaks
  return ⟨contentStart, .scalar style text⟩

def fetchBlockScalar (literal : Bool) : ScanM Unit := do
  saveSimpleKey
  allowSimpleKey
  let tok ← scanBlockScalar literal
  modify fun s => { s with tokens := s.tokens.push tok }

def continuesPlain (s : Scanner) : Bool :=
  let c := s.peek 0
  let nc := s.peek 1
  if c == ':' && (isBlankZ nc || (s.flowLevel > 0 && isFlow nc)) then false
  else if s.flowLevel > 0 && isFlow c then false
  else true

def scanPlainScalar : ScanM Token := do
  unrollNonBlockIndents
  let s ← get
  let indent := s.indent + 1
  let start := s.mark
  if s.flowLevel > 0 && (start.col : Int) < indent then
    fail start "invalid indentation in flow construct"
  let mut text := ""
  let mut leadingBreak := ""
  let mut trailingBreaks := ""
  let mut whitespaces := ""
  for _ in [0:(← fuel)] do
    let s ← get
    if s.atDocumentIndicator || s.peek 0 == '#' then break
    if s.flowLevel > 0 && s.peek 0 == '-' && isFlow (s.peek 1) then
      fail s.mark "plain scalar cannot start with '-' followed by ,[]{}"
    if !isBlankZ (s.peek 0) && continuesPlain s then
      if s.leadingWhitespace then
        if leadingBreak.isEmpty then
          text := text ++ leadingBreak ++ trailingBreaks
          trailingBreaks := ""
          leadingBreak := ""
        else
          if trailingBreaks.isEmpty then text := text.push ' '
          else
            text := text ++ trailingBreaks
            trailingBreaks := ""
          leadingBreak := ""
        modify fun s => { s with leadingWhitespace := false }
      else if !whitespaces.isEmpty then
        text := text ++ whitespaces
        whitespaces := ""
      for _ in [0:(← fuel)] do
        let s ← get
        if isBlankZ (s.peek 0) || !continuesPlain s then break
        text := text.push (s.peek 0)
        set s.skipNonBlank
    let c ← cur
    if !(isBlank c || isBreak c) then break
    for _ in [0:(← fuel)] do
      let s ← get
      let c := s.peek 0
      if !(isBlank c || isBreak c) then break
      if isBlank c then
        if !s.leadingWhitespace then
          whitespaces := whitespaces.push c
          set s.skipBlank
        else if (s.mark.col : Int) < indent && c == '\t' then
          let _ ← skipWsToEol true
          if !isBreakZ (← cur) then fail start "while scanning a plain scalar, found a tab"
        else set s.skipBlank
      else if s.leadingWhitespace then
        let (s2, b) := s.readBreak trailingBreaks
        set s2
        trailingBreaks := b
      else
        whitespaces := ""
        let (s2, b) := s.readBreak leadingBreak
        set s2
        leadingBreak := b
    let s ← get
    if s.flowLevel == 0 && (s.mark.col : Int) < indent then break
  if (← get).leadingWhitespace then allowSimpleKey
  if text.isEmpty then fail start "unexpected end of plain scalar"
  return ⟨start, .scalar .plain text⟩

def fetchPlainScalar : ScanM Unit := do
  saveSimpleKey
  disallowSimpleKey
  let tok ← scanPlainScalar
  modify fun s => { s with tokens := s.tokens.push tok }

def fetchNextToken : ScanM Unit := do
  if !(← get).streamStartProduced then
    fetchStreamStart
    return
  skipToNextToken
  staleSimpleKeys
  unrollIndent (← mark).col
  let s ← get
  let c := s.peek 0
  let nc := s.peek 1
  if isZ c then fetchStreamEnd
  else if s.mark.col == 0 && c == '%' then fetchDirective
  else if s.mark.col == 0 && c == '-' && nc == '-' && s.peek 2 == '-' && isBlankZ (s.peek 3) then
    fetchDocumentIndicator .documentStart
  else if s.atDocumentEnd then
    fetchDocumentIndicator .documentEnd
    let _ ← skipWsToEol true
    if !isBreakZ (← cur) then fail (← mark) "invalid content after document end marker"
  else if c == '[' then fetchFlowCollectionStart true
  else if c == '{' then fetchFlowCollectionStart false
  else if c == ']' then fetchFlowCollectionEnd true
  else if c == '}' then fetchFlowCollectionEnd false
  else if c == ',' then fetchFlowEntry
  else if c == '-' && isBlankZ nc then fetchBlockEntry
  else if c == '?' && isBlankZ nc then fetchKey
  else if c == ':' && isBlankZ nc then fetchValue
  else if c == ':' && s.flowLevel > 0 &&
      (isFlow nc || s.mark.index == s.adjacentValueAllowedAt) then
    fetchFlowValue
  else if c == '*' then fetchAnchor true
  else if c == '&' then fetchAnchor false
  else if c == '!' then fetchTag
  else if c == '|' && s.flowLevel == 0 then fetchBlockScalar true
  else if c == '>' && s.flowLevel == 0 then fetchBlockScalar false
  else if c == '\'' then fetchFlowScalar true
  else if c == '"' then fetchFlowScalar false
  else if c == '%' || c == '@' || c == '`' then
    fail s.mark s!"unexpected character: `{c}'"
  else fetchPlainScalar

def frontMayBeKey : ScanM Bool := do
  let s ← get
  return s.simpleKeys.any fun k => k.possible && k.tokenNumber == s.tokensParsed

def fetchMoreTokens : ScanM Unit := do
  for _ in [0:2 * (← fuel) + 8] do
    let needMore ←
      if (← get).tokens.isEmpty then pure true
      else do
        staleSimpleKeys
        frontMayBeKey
    if !needMore then break
    fetchNextToken
  modify fun s => { s with tokenAvailable := true }

def nextToken : ScanM (Option Token) := do
  if (← get).streamEndProduced then return none
  if !(← get).tokenAvailable then fetchMoreTokens
  let s ← get
  match s.tokens[0]? with
  | none => fail s.mark "did not find expected next token"
  | some t =>
    set { s with tokens := s.tokens.eraseIdxIfInBounds 0, tokenAvailable := false
                 tokensParsed := s.tokensParsed + 1
                 streamEndProduced := match t.kind with
                   | .streamEnd => true
                   | _ => false }
    return some t

end Scan

end Yaml

end SealedPillar

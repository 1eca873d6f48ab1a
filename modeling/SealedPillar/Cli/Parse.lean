import SealedPillar.Cli.Help
import SealedPillar.Cli.Suggest

/-!
Reading a command line against an interface.

Words are read left to right. A word naming a subcommand (unless an option is waiting for its
value) hands the rest of the line to that subcommand; `help` instead shows the help of the
subcommand its following words name. `--` makes every later word a value. `--name=value`,
`--name value`, `-x value`, `-xvalue` and `-x=value` give options their values; `-abc` is a
cluster of switches, the first option in it taking the rest of the word as its value. Any other
word is the next positional value, or an error. Giving a switch or single-valued option twice at
the same level is an error.

When a command's words are used up, a waiting option without value is an error, missing values
are read from the environment and then from defaults, and the command is checked: with no
subcommand where one is required, it shows its help if nothing was given at all and is an error
otherwise; conflicting arguments and missing required ones are errors.

A global argument may be given at any level; the value given at the deepest level wins, and a
value from the command line beats one from the environment, which beats a default.
-/

namespace SealedPillar

namespace Cli

open Styled

inductive Origin where
  | default
  | env
  | commandLine
  deriving DecidableEq, Inhabited

def Origin.rank : Origin → Nat
  | .default => 0
  | .env => 1
  | .commandLine => 2

structure Given where
  id : String
  values : List String
  source : Origin
  deriving Inhabited

inductive StopKind where
  | displayHelp
  | displayVersion
  | displayHelpOnMissing
  | missingRequiredArgument
  | argumentConflict
  | unknownArgument
  | invalidSubcommand
  | invalidValue
  | missingSubcommand
  | tooManyValues
  deriving DecidableEq, Inhabited

namespace StopKind

def name : StopKind → String
  | displayHelp => "DisplayHelp"
  | displayVersion => "DisplayVersion"
  | displayHelpOnMissing => "DisplayHelpOnMissingArgumentOrSubcommand"
  | missingRequiredArgument => "MissingRequiredArgument"
  | argumentConflict => "ArgumentConflict"
  | unknownArgument => "UnknownArgument"
  | invalidSubcommand => "InvalidSubcommand"
  | invalidValue => "InvalidValue"
  | missingSubcommand => "MissingSubcommand"
  | tooManyValues => "TooManyValues"

def exitCode : StopKind → Nat
  | displayHelp => 0
  | displayVersion => 0
  | _ => 2

def toStdout : StopKind → Bool
  | displayHelp => true
  | displayVersion => true
  | _ => false

end StopKind

structure Stop where
  kind : StopKind
  text : Styled
  deriving Inhabited

structure Extras where
  subcommands : List String
  argument : Option String
  value : Option String
  tips : List Styled
  usage : Option Styled

def Extras.none : Extras := ⟨[], Option.none, Option.none, [], Option.none⟩

def didYouMean (context : String) (possibles : List String) : Styled :=
  let head := match possibles with
    | [_] => text "  " ++ tone .valid "tip:" ++ text (" a similar " ++ context ++ " exists: ")
    | _ => text "  " ++ tone .valid "tip:" ++ text (" some similar " ++ context ++ "s exist: ")
  head ++ sep ", " (possibles.map fun p => text "'" ++ tone .valid p ++ text "'")

def failure (c : Command) (kind : StopKind) (message : Styled) (x : Extras) : Stop :=
  let start := tone .error "error:" ++ text " " ++ message
  let (s1, suggested) :=
    if x.subcommands.isEmpty then (start, false)
    else (start ++ text "\n\n" ++ didYouMean "subcommand" x.subcommands, true)
  let (s2, suggested) :=
    match x.argument with
    | some a => (s1 ++ text (if suggested then "\n" else "\n\n") ++ didYouMean "argument" [a], true)
    | none => (s1, suggested)
  let (s3, suggested) :=
    match x.value with
    | some v => (s2 ++ text (if suggested then "\n" else "\n\n") ++ didYouMean "value" [v], true)
    | none => (s2, suggested)
  let s4 :=
    if x.tips.isEmpty then s3
    else
      (if suggested then s3 else s3 ++ text "\n") ++
        List.flatten (x.tips.map fun t => text "\n  " ++ tone .valid "tip:" ++ text " " ++ t)
  let s5 :=
    match x.usage with
    | some u => s4 ++ text "\n\n" ++ u
    | none => s4
  let help :=
    if c.helpSwitch then text "\n\nFor more information, try '" ++ lit "--help" ++ text "'.\n"
    else text "\n"
  ⟨kind, s5 ++ help⟩

def escapeValue (v : String) : String :=
  if v.any Char.isWhitespace then "\"" ++ v ++ "\"" else v

def valuesList (name : String) (vs : List String) : Styled :=
  if vs.isEmpty then []
  else text ("\n  [" ++ name ++ ": ") ++ sep ", " (vs.map fun v => tone .valid (escapeValue v)) ++
    text "]"

def emptyValue (c : Command) (a : Arg) : Stop :=
  failure c .invalidValue
    (text "a value is required for '" ++ tone .invalid a.display ++
      text "' but none was supplied" ++ valuesList "possible values" a.choices) Extras.none

def invalidValue (c : Command) (a : Arg) (v : String) : Stop :=
  if v.isEmpty then emptyValue c a
  else
    failure c .invalidValue
      (text "invalid value '" ++ tone .invalid v ++ text "' for '" ++ lit a.display ++ text "'" ++
        valuesList "possible values" a.choices)
      { Extras.none with value := closest v a.choices }

structure Reading where
  given : List Given
  /-- The option that takes the next word as its value. -/
  awaiting : Option Arg
  /-- The argument whose values were read but are not yet checked and recorded: they are when
  the next argument starts, or when the words end. -/
  pending : Option (Arg × List String)
  /-- How many positional values were taken. -/
  positionIndex : Nat
  /-- Whether `--` was seen. -/
  trailing : Bool
  deriving Inhabited

namespace Reading

def start : Reading := ⟨[], none, none, 0, false⟩

def has (r : Reading) (id : String) : Bool := r.given.any (·.id == id)

def explicit (r : Reading) (id : String) : Bool :=
  r.given.any fun g => g.id == id && g.source != .default

def explicitIds (r : Reading) : List String :=
  (r.given.filter (·.source != .default)).map (·.id)

end Reading

def checkValue (c : Command) (a : Arg) (v : String) : Except Stop Unit :=
  if !a.choices.isEmpty && !a.choices.contains v then .error (invalidValue c a v)
  else if a.path && v.isEmpty then .error (emptyValue c a)
  else .ok ()

def record (r : Reading) (a : Arg) (vals : List String) (source : Origin) : Reading :=
  let vals := if a.action == .flag then ["true"] else vals
  if r.has a.id then
    { r with given := r.given.map fun g =>
      if g.id == a.id then { g with values := g.values ++ vals } else g }
  else { r with given := r.given ++ [⟨a.id, vals, source⟩] }

/-- Records an argument with its values. An option given without a value fails first, then one
that may be given once and was given before, then a value that is not allowed. -/
def react (c : Command) (r : Reading) (a : Arg) (vals : List String) (source : Origin) :
    Except Stop Reading := do
  match a.action with
  | .help => throw ⟨.displayHelp, c.helpText⟩
  | .version => throw ⟨.displayVersion, text c.versionText⟩
  | .flag | .set | .append =>
    if a.takesValue && vals.isEmpty then throw (emptyValue c a)
    if a.action != .append && r.has a.id then
      throw (failure c .argumentConflict
        (text "the argument '" ++ tone .invalid a.display ++ text "' cannot be used multiple times")
        { Extras.none with usage := some (c.usageTitled []) })
    for v in vals do checkValue c a v
    pure (record r a vals source)

def resolvePending (c : Command) (r : Reading) : Except Stop Reading :=
  match r.pending with
  | some (a, vals) => react c { r with pending := none } a vals .commandLine
  | none => .ok r

/-- Settles the waiting values before an error about a later word is reported: an argument
with values counts as given whether or not they pass their checks, and one given a second time
when it may be given once counts as not given. -/
def settleQuietly (r : Reading) : Reading :=
  match r.pending with
  | none => r
  | some (a, vals) =>
    let r := { r with pending := none }
    if vals.isEmpty then r
    else if a.action != .append && r.has a.id then
      { r with given := r.given.filter (·.id != a.id) }
    else record r a vals .commandLine

def given (c : Command) (r : Reading) (a : Arg) (vals : List String) : Except Stop Reading := do
  let r ← resolvePending c r
  react c r a vals .commandLine

def expect (c : Command) (r : Reading) (a : Arg) : Except Stop Reading := do
  let r ← resolvePending c r
  pure { r with awaiting := some a, pending := some (a, []) }

def plainUsage (c : Command) : Option Styled := some (c.usageTitled [])

def usedIds (c : Command) (r : Reading) : List String :=
  r.explicitIds.filter fun id => !((c.findArg id).map (·.required)).getD false

def unknownLong (c : Command) (r : Reading) (name : String) (rest : List String) : Stop :=
  let longs := c.args.filterMap (·.long)
  let suggestion : Option (String × Option String) :=
    match closest name longs with
    | some l => some (l, none)
    | none =>
      let scored := c.subcommands.filterMap fun s => do
        let cand ← closest name (s.args.filterMap (·.long))
        let score ← rest.idxOf? s.name
        pure (score, cand, s.name)
      match scored.foldl (fun best x =>
          match best with
          | some b => if x.1 < b.1 then some x else some b
          | none => some x) none with
      | some (_, cand, sub) => some (cand, some sub)
      | none => none
  let present := r.explicitIds
  let used :=
    match suggestion with
    | some (l, none) =>
      match c.findLong l with
      | some a => if present.contains a.id then present else present ++ [a.id]
      | none => present
    | _ => present
  let trailingTip :=
    (suggestion.isNone) && !r.trailing && !c.positionals.isEmpty
  let tips :=
    (if trailingTip then
      [text "to pass '" ++ tone .invalid ("--" ++ name) ++ text "' as a value, use '" ++
        tone .valid ("-- --" ++ name) ++ text "'"]
     else []) ++
    (match suggestion with
      | some (l, some sub) => [text "'" ++ tone .valid (sub ++ " --" ++ l) ++ text "' exists"]
      | _ => [])
  failure c .unknownArgument
    (text "unexpected argument '" ++ tone .invalid ("--" ++ name) ++ text "' found")
    { Extras.none with
      argument := (match suggestion with
        | some (l, none) => some ("--" ++ l)
        | _ => none)
      tips := tips
      usage := some (c.usageTitled used) }

def unknownShort (c : Command) (r : Reading) (flag : String) : Stop :=
  let tips :=
    if !r.trailing && !c.positionals.isEmpty then
      [text "to pass '" ++ tone .invalid flag ++ text "' as a value, use '" ++
        tone .valid ("-- " ++ flag) ++ text "'"]
    else []
  failure c .unknownArgument (text "unexpected argument '" ++ tone .invalid flag ++ text "' found")
    { Extras.none with tips := tips, usage := plainUsage c }

def unrecognized (c : Command) (word : String) : Stop :=
  failure c .invalidSubcommand
    (text "unrecognized subcommand '" ++ tone .invalid word ++ text "'")
    { Extras.none with usage := plainUsage c }

def unplaced (c : Command) (r : Reading) (word : String) : Stop :=
  if r.trailing && (c.findSub word).isSome then
    failure c .unknownArgument
      (text "unexpected argument '" ++ tone .invalid word ++ text "' found")
      { Extras.none with
        tips := [text "subcommand '" ++ tone .valid word ++
          text "' exists; to use it, remove the '" ++ tone .invalid "--" ++ text "' before it"]
        usage := plainUsage c }
  else if !c.subcommands.isEmpty && !(similar word c.allSubNames).isEmpty then
    failure c .invalidSubcommand
      (text "unrecognized subcommand '" ++ tone .invalid word ++ text "'")
      { Extras.none with subcommands := similar word c.allSubNames, usage := plainUsage c }
  else if !c.subcommands.isEmpty && c.positionals.isEmpty then unrecognized c word
  else
    failure c .unknownArgument
      (text "unexpected argument '" ++ tone .invalid word ++ text "' found")
      { Extras.none with usage := plainUsage c }

def helpWalk (c : Command) : List String → Stop
  | [] => ⟨.displayHelp, c.helpText⟩
  | w :: ws =>
    match c.findSub w with
    | some s => helpWalk s ws
    | none => unrecognized c w

def readCluster (c : Command) (r : Reading) : List Char → Except Stop Reading
  | [] => .ok r
  | ch :: more =>
    match c.findShort ch with
    | none => .error (unknownShort c (settleQuietly r) ("-" ++ String.singleton ch))
    | some a =>
      if !a.takesValue then do
        let r ← given c r a []
        readCluster c r more
      else if more.isEmpty then expect c r a
      else
        let v := match more with
          | '=' :: rest => String.ofList rest
          | _ => String.ofList more
        given c r a [v]

/-- Reads a value word: the value of the option before it, or else the next positional value.
After `--` every word is a positional value. -/
def readValue (c : Command) (r : Reading) (word : String) : Except Stop Reading :=
  match r.awaiting, r.pending, r.trailing with
  | some a, some (_, vals), false => .ok { r with awaiting := none, pending := some (a, vals ++ [word]) }
  | _, _, _ =>
    match c.positionals[r.positionIndex]? with
    | some a => do
      let r ← resolvePending c { r with awaiting := none }
      let r := { r with pending := some (a, [word]) }
      pure (if a.action == .append then r else { r with positionIndex := r.positionIndex + 1 })
    | none => .error (unplaced c (settleQuietly r) word)

def readWords (c : Command) (r : Reading) :
    List String → Except Stop (Reading × Option (Command × List String))
  | [] => .ok (r, none)
  | w :: ws => do
    if r.trailing then
      let r ← readValue c r w
      readWords c r ws
    else
      match (if r.awaiting.isSome then none else c.findSub w) with
      | some s =>
        if s.name == "help" && s.args.all (·.positional) then .error (helpWalk c ws)
        else .ok (r, some (s, ws))
      | none =>
        if w == "--" then
          readWords c { r with trailing := true, awaiting := none } ws
        else if w.startsWith "--" then
          let body := (w.drop 2).toString
          let (name, attached) :=
            match body.splitOn "=" with
            | n :: v :: more => (n, some ("=".intercalate (v :: more)))
            | _ => (body, none)
          match c.findLong name with
          | none => .error (unknownLong c (settleQuietly r) name ws)
          | some a =>
            if a.takesValue then
              match attached with
              | some v =>
                let r ← given c r a [v]
                readWords c r ws
              | none =>
                let r ← expect c r a
                readWords c r ws
            else
              match attached with
              | some v =>
                let used := usedIds c r ++ [a.id]
                .error (failure c .tooManyValues
                  (text "unexpected value '" ++ tone .invalid v ++ text "' for '" ++
                    lit a.display ++ text "' found; no more were expected")
                  { Extras.none with usage := some (c.usageTitled used) })
              | none =>
                let r ← given c r a []
                readWords c r ws
        else if w.startsWith "-" && w.length > 1 then
          let r ← readCluster c r (w.drop 1).toString.toList
          readWords c r ws
        else
          let r ← readValue c r w
          readWords c r ws

def fillMissing (c : Command) (r : Reading) : Except Stop Reading := do
  let mut r := r
  for a in c.args do
    if !r.has a.id then
      match a.env with
      | some (_, some v) => r ← react c r a [v] .env
      | _ => pure ()
  for a in c.args do
    if !r.has a.id then
      match a.default with
      | some d => r := { r with given := r.given ++ [⟨a.id, [d], .default⟩] }
      | none => pure ()
  pure r

def conflictsOf (c : Command) (r : Reading) (id : String) : List String :=
  let own := ((c.findArg id).map (·.conflicts)).getD []
  r.explicitIds.filter fun other =>
    other != id &&
      (own.contains other || (((c.findArg other).map (·.conflicts)).getD []).contains id)

def validate (c : Command) (r : Reading) (hasSub : Bool) : Except Stop Unit := do
  if !hasSub && c.subcommandRequired && r.explicitIds.isEmpty then
    throw ⟨.displayHelpOnMissing, c.helpText⟩
  if !hasSub && c.subcommandRequired then
    throw (failure c .missingSubcommand
      (text "'" ++ tone .invalid c.fullName ++
        text "' requires a subcommand but one was not provided" ++
        valuesList "subcommands" c.allSubNames)
      { Extras.none with usage := plainUsage c })
  for id in r.explicitIds do
    let others := dedupIds (conflictsOf c r id)
    if !others.isEmpty then
      let shown := others.filterMap fun o => (c.findArg o).map (·.display)
      let former := ((c.findArg id).map (·.display)).getD id
      let used := (usedIds c r).filter (!others.contains ·)
      let tail := match shown with
        | [one] => text " '" ++ tone .invalid one ++ text "'"
        | many => text ":" ++ List.flatten (many.map fun o => text "\n  " ++ tone .invalid o)
      throw (failure c .argumentConflict
        (text "the argument '" ++ tone .invalid former ++ text "' cannot be used with" ++ tail)
        { Extras.none with usage := some (c.usageTitled used) })
  let missingRequired := (c.args.filter fun a =>
    a.required && !r.explicit a.id && (conflictsOf c r a.id).isEmpty).map (·.id)
  let missingUnless := (c.args.filter fun a =>
    !r.explicit a.id && !a.requiredUnless.isEmpty &&
      !a.requiredUnless.any r.explicit).map (·.id)
  let missing := missingRequired ++ missingUnless
  if !missing.isEmpty then
    let listed := c.requiredList missing r.explicitIds
    let used := (r.explicitIds ++ missing)
    throw (failure c .missingRequiredArgument
      (text "the following required arguments were not provided:" ++
        List.flatten (listed.map fun l => text "\n  " ++ tone .valid l))
      { Extras.none with usage := some (c.usageTitled used) })

def readCommand : Nat → Command → List String → Except Stop (List (Command × List Given))
  | 0, _, _ => .ok []
  | fuel + 1, c, words => do
    let (r, sub) ← readWords c Reading.start words
    let below ← match sub with
      | some (s, rest) => readCommand fuel s rest
      | none => pure []
    let r ← resolvePending c r
    let r ← fillMissing c r
    validate c r !below.isEmpty
    pure ((c, r.given) :: below)

structure Invocation where
  path : List String
  values : List (String × List String)
  deriving Inhabited

namespace Invocation

def get? (inv : Invocation) (id : String) : Option String :=
  (inv.values.lookup id).bind (·.getLast?)

def getAll (inv : Invocation) (id : String) : List String := (inv.values.lookup id).getD []

def flag (inv : Invocation) (id : String) : Bool := inv.get? id == some "true"

end Invocation

/-- Merges the levels read: the innermost command's values, each global one taken from the
deepest level that has it unless a shallower level has it from a stronger source. -/
def merge (levels : List (Command × List Given)) : Invocation :=
  let path := (levels.drop 1).map (·.1.name)
  match levels.getLast? with
  | none => ⟨path, []⟩
  | some (leaf, leafGiven) =>
    let pick (id : String) : Option Given :=
      levels.foldl (fun cur (_, gs) =>
        match gs.find? (·.id == id) with
        | some g =>
          match cur with
          | some c => if c.source.rank > g.source.rank then some c else some g
          | none => some g
        | none => cur) none
    let ids := dedupIds (leafGiven.map (·.id) ++
      (leaf.args.filter (·.global)).map (·.id))
    let values := ids.filterMap fun id =>
      let isGlobal := ((leaf.findArg id).map (·.global)).getD false
      let g := if isGlobal then pick id else leafGiven.find? (·.id == id)
      g.map fun g => (id, g.values)
    ⟨path, values⟩

def read (top : Command) (words : List String) : Except Stop Invocation :=
  (readCommand (words.length + 2) top words).map merge

end Cli

end SealedPillar

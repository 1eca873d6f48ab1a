import SealedPillar.Toml.Parse
import SealedPillar.Binary64.Shortest
import SealedPillar.Error
import SealedPillar.Trace

/-!
Configuration profiles, and how they combine with command-line flags into key options.

The configuration file holds a list of profiles, each a name with an optional default key,
GnuPG home and keyring paths; one may be marked the default. A missing file is an empty
configuration. Reading the file keeps its table entries in order and stops at the first value of
the wrong type, naming it the way a typed reader does (`invalid type: integer 3, expected a
sequence`), and at a profile without a name.

Resolving options (`Settings.resolve`): a key given on the command line means no profile is used;
otherwise the named profile, or the default one. Flags win over the profile, the profile's home
over the `GNUPGHOME` variable, and keyrings come from the profile only when no home is set,
since a home carries its own rings. Profile paths may start with `~`, the home directory.
-/

namespace SealedPillar

structure Profile where
  name : String
  isDefault : Bool
  defaultKey : Option String
  gnupgHome : Option String
  defaultPubRing : Option String
  defaultSecRing : Option String
  deriving Inhabited

structure Config where
  profiles : List Profile
  deriving Inhabited

structure GpgOptions where
  recipient : Option String
  homedir : Option String
  keyring : Option String
  secretKeyring : Option String
  deriving Inhabited

structure Settings where
  profile : Option String
  pgpKey : Option String
  pubring : Option String
  secring : Option String
  gnupgHome : Option String
  deriving Inhabited

def configFile : String := ".config/secure-pillar/config.toml"

def joinPath (base rest : String) : String :=
  if rest.startsWith "/" || base.isEmpty then rest
  else if base.endsWith "/" then base ++ rest
  else base ++ "/" ++ rest

/-- Replaces a leading `~` (alone or before `/`) by the home directory, when it is known. -/
def expandTilde (home : Option String) (path : String) : String :=
  let rest := if path == "~" then some "" else
    if path.startsWith "~/" then some (path.drop 2).toString else none
  match rest, home with
  | some r, some h => if r.isEmpty then h else joinPath h r
  | _, _ => path

namespace Config

/-- A double as plain decimal digits, never in exponent form, with `.0` when it has no point. -/
def floatText (x : Binary64) : String :=
  if x.isNaN then "NaN"
  else if x.isInfinite then (if x.negative then "-inf" else "inf")
  else
    let sign := if x.negative then "-" else ""
    let body :=
      if x.isZero then "0"
      else
        let (digits, e) := Binary64.shortest x
        let ds := Binary64.natText digits
        if 0 ≤ e then ds ++ String.ofList (List.replicate e.toNat '0')
        else
          let k := (-e).toNat
          if ds.length > k then
            String.ofList (ds.toList.take (ds.length - k)) ++ "." ++
              String.ofList (ds.toList.drop (ds.length - k))
          else "0." ++ String.ofList (List.replicate (k - ds.length) '0') ++ ds
    let t := sign ++ body
    if t.toList.contains '.' then t else t ++ ".0"

def unexpected : Toml.Node → String
  | .string s _ => "string " ++ Trace.quoted s
  | .integer i _ => "integer `" ++ toString i ++ "`"
  | .float x _ => "floating point `" ++ floatText x ++ "`"
  | .boolean b _ => "boolean `" ++ (if b then "true" else "false") ++ "`"
  | .datetime .. => "map"
  | .array .. => "sequence"
  | .tables .. => "sequence"
  | .inline .. => "map"
  | .table .. => "map"

def typeError (n : Toml.Node) (expected : String) : Toml.TomlError :=
  ⟨"invalid type: " ++ unexpected n ++ ", expected " ++ expected, none, []⟩

def within (k : String) (ks : Toml.Span) (n : Toml.Node) (e : Toml.TomlError) : Toml.TomlError :=
  { e with span := e.span <|> n.span? <|> some ks, keys := k :: e.keys }

def pointAt (n : Toml.Node) (e : Toml.TomlError) : Toml.TomlError :=
  { e with span := e.span <|> n.span? }

def text : Toml.Node → Except Toml.TomlError String
  | .string s _ => .ok s
  | n => .error (typeError n "a string")

def flag : Toml.Node → Except Toml.TomlError Bool
  | .boolean b _ => .ok b
  | n => .error (typeError n "a boolean")

def profileOf (entries : Toml.Entries) : Except Toml.TomlError Profile := do
  let step (p : Profile × Bool) (e : String × Toml.Span × Toml.Node) :
      Except Toml.TomlError (Profile × Bool) :=
    let (k, ks, v) := e
    let (prof, named) := p
    let field {α : Type} (r : Except Toml.TomlError α) : Except Toml.TomlError α :=
      r.mapError (within k ks v)
    match k with
    | "name" => do let s ← field (text v); pure ({ prof with name := s }, true)
    | "default" => do let b ← field (flag v); pure ({ prof with isDefault := b }, named)
    | "default_key" => do let s ← field (text v); pure ({ prof with defaultKey := some s }, named)
    | "gnupg_home" => do let s ← field (text v); pure ({ prof with gnupgHome := some s }, named)
    | "default_pub_ring" => do
      let s ← field (text v)
      pure ({ prof with defaultPubRing := some s }, named)
    | "default_sec_ring" => do
      let s ← field (text v)
      pure ({ prof with defaultSecRing := some s }, named)
    | _ => pure (prof, named)
  let (prof, named) ← entries.foldlM step (⟨"", false, none, none, none, none⟩, false)
  if named then pure prof else throw ⟨"missing field `name`", none, []⟩

def profileOfItems (items : List Toml.Node) : Except Toml.TomlError Profile := do
  let item {α : Type} (read : Toml.Node → Except Toml.TomlError α) (n : Toml.Node) :
      Except Toml.TomlError α :=
    (read n).mapError (pointAt n)
  let path (i : Nat) : Except Toml.TomlError (Option String) :=
    match items[i]? with
    | some n => some <$> item text n
    | none => pure none
  match items with
  | [] => throw ⟨"invalid length 0, expected struct Profile with 6 elements", none, []⟩
  | first :: _ =>
    let name ← item text first
    let isDefault ← match items[1]? with
      | some n => item flag n
      | none => pure false
    pure ⟨name, isDefault, ← path 2, ← path 3, ← path 4, ← path 5⟩

/-- Reads a profile from a table or an array. A date is read as a table with one private key, so
it lacks a name. -/
def profile (n : Toml.Node) : Except Toml.TomlError Profile :=
  (match n with
    | .table es .. => profileOf es
    | .inline es .. => profileOf es
    | .array items _ => profileOfItems items
    | .datetime .. => .error ⟨"missing field `name`", none, []⟩
    | _ => .error (typeError n "struct Profile")).mapError (pointAt n)

def profileList (n : Toml.Node) : Except Toml.TomlError (List Profile) :=
  (match n with
    | .array items _ => items.mapM profile
    | .tables items _ => items.mapM profile
    | _ => .error (typeError n "a sequence")).mapError (pointAt n)

def ofEntries (entries : Toml.Entries) : Except Toml.TomlError Config :=
  entries.foldlM (fun c (k, ks, v) =>
    if k == "profiles" then
      (profileList v).mapError (within k ks v) |>.map fun ps => { c with profiles := ps }
    else .ok c) ⟨[]⟩

def ofText (text : String) : Except String Config :=
  match Toml.parse text >>= ofEntries with
  | .ok c => .ok c
  | .error e => .error (e.display text)

def select (c : Config) : Option String → Except Error (Option Profile)
  | some name =>
    match c.profiles.find? (·.name == name) with
    | some p => .ok (some p)
    | none => .error (.config (.profileNotFound name))
  | none => .ok (c.profiles.find? (·.isDefault))

variable {m : Type → Type} [Monad m]

def area : String := "secure_pillar::core::config"

def load (tr : Tracer m) (read : String → m (Option (Except IoError String))) (path : String) :
    ExceptT Error m Config := do
  match ← read path with
  | none =>
    tr.emit area .debug "no config file" [("path", path)]
    pure ⟨[]⟩
  | some (.error e) => throw (.config (.unreadable e))
  | some (.ok text) =>
    match ofText text with
    | .error d => throw (.config (.parse d))
    | .ok c =>
      tr.emit area .debug "config loaded" [("path", path), ("profiles", toString c.profiles.length)]
      pure c

end Config

namespace Settings

variable {m : Type → Type} [Monad m]

def resolve (tr : Tracer m) (s : Settings) (c : Config) (envHome home : Option String) :
    ExceptT Error m GpgOptions := do
  let prof ← if s.pgpKey.isSome then pure none else ExceptT.mk (pure (c.select s.profile))
  if let some p := prof then tr.emit Config.area .debug "using profile" [("profile", p.name)]
  let recipient := s.pgpKey <|> prof.bind (·.defaultKey)
  let profileHome := (prof.bind (·.gnupgHome)).map (expandTilde home)
  let homedir := s.gnupgHome <|> profileHome <|> envHome
  let ringProfile := if homedir.isNone then prof else none
  let keyring := s.pubring <|> (ringProfile.bind (·.defaultPubRing)).map (expandTilde home)
  let secretKeyring := s.secring <|> (ringProfile.bind (·.defaultSecRing)).map (expandTilde home)
  pure ⟨recipient, homedir, keyring, secretKeyring⟩

end Settings

end SealedPillar

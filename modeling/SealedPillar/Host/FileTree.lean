import SealedPillar.Error

/-!
An in-memory file system with a working directory, and the error each file system call meets.

Paths are read one name at a time as the system resolves them, from the root when they start
with `/` and from the working directory otherwise: empty names and `.` stay where they are, `..`
goes up a level (the root is its own parent), and every name but the last must lead to a directory
that is there. A path that ends with `/` (or `/.`) must name a directory. Each entry is a file with
its bytes or a directory, and has permission bits, which are kept but never checked. Calls fail
the way the system calls they stand for do: reading a directory is `isADirectory`, going through a
file is `notADirectory`, a missing component is `notFound`, creating what exists is
`alreadyExists`.
-/

namespace SealedPillar

inductive FsEntry where
  | file (bytes : List UInt8) (mode : Nat)
  | dir (mode : Nat)
  deriving Inhabited, DecidableEq

/-- Entries by their names from the root, and the working directory. -/
structure FileTree where
  entries : List (List String × FsEntry)
  cwd : List String
  deriving Inhabited

namespace FileTree

def empty : FileTree := ⟨[], []⟩

def segments (path : String) : List String := (path.toList.splitOn '/').map String.ofList

/-- The names of a path, empty names and `.` dropped and `..` kept, and whether the path must
name a directory (it ends with `/` or `/.`); `none` for the empty path, which names nothing. -/
def names (path : String) : Option (List String × Bool) :=
  if path.isEmpty then none
  else
    let parts := segments path
    let mustBeDir := parts.length > 1 && (parts.getLastD "" == "" || parts.getLastD "" == ".")
    some (parts.filter (fun c => !c.isEmpty && c != "."), mustBeDir)

def origin (t : FileTree) (path : String) : List String :=
  if path.startsWith "/" then [] else t.cwd

def lookup (t : FileTree) (p : List String) : Option FsEntry :=
  if p.isEmpty then some (.dir 0o755) else (t.entries.find? (·.1 == p)).map (·.2)

/-- Follows names from a place in the tree. Each name but the last must lead to a directory
that is there: a file there is `notADirectory`, nothing there `notFound`. Gives the place the
last name stands for, which may hold nothing. -/
def locate (t : FileTree) (cur : List String) : List String → Except IoError (List String)
  | [] => .ok cur
  | n :: rest =>
    let next := if n == ".." then cur.dropLast else cur ++ [n]
    match rest with
    | [] => .ok next
    | _ :: _ =>
      match t.lookup next with
      | some (.dir _) => t.locate next rest
      | some (.file ..) => .error .notADirectory
      | none => .error .notFound

def place (t : FileTree) (path : String) : Except IoError (List String × Bool) :=
  match names path with
  | none => .error .notFound
  | some (ns, mustBeDir) => do
    let p ← t.locate (t.origin path) ns
    pure (p, mustBeDir)

def stat (t : FileTree) (path : String) : Except IoError FsEntry := do
  let (p, mustBeDir) ← t.place path
  match t.lookup p with
  | none => .error .notFound
  | some e =>
    match e with
    | .file .. => if mustBeDir then .error .notADirectory else .ok e
    | .dir _ => .ok e

def exists? (t : FileTree) (path : String) : Bool := (t.stat path).toOption.isSome

def isDir (t : FileTree) (path : String) : Bool :=
  match t.stat path with
  | .ok (.dir _) => true
  | _ => false

def put (t : FileTree) (p : List String) (e : FsEntry) : FileTree :=
  if t.entries.any (·.1 == p) then
    { t with entries := t.entries.map fun (q, old) => if q == p then (q, e) else (q, old) }
  else { t with entries := t.entries ++ [(p, e)] }

def remove (t : FileTree) (p : List String) : FileTree :=
  { t with entries := t.entries.filter (·.1 != p) }

def trimEnd : List String → List String
  | [] => []
  | first :: rest => first :: (rest.reverse.dropWhile (fun s => s.isEmpty || s == ".")).reverse

def parentText (path : String) : Option String :=
  match trimEnd (segments path) with
  | [] | [""] => none
  | [_] => some ""
  | segs =>
    match trimEnd segs.dropLast with
    | [""] => some "/"
    | rest => some ("/".intercalate rest)

def mkdir (t : FileTree) (path : String) (mode : Nat) : Except IoError FileTree :=
  match names path with
  | none => .error .notFound
  | some ([], _) => .error .alreadyExists
  | some (ns, _) => do
    let p ← t.locate (t.origin path) ns
    match t.lookup p with
    | some _ => .error .alreadyExists
    | none => pure (t.put p (.dir mode))

def mkdirAll (t : FileTree) (path : String) (mode : Nat) : Nat → Except IoError FileTree
  | 0 => .error .notFound
  | fuel + 1 =>
    if path.isEmpty then .ok t
    else
      match t.mkdir path mode with
      | .ok t' => .ok t'
      | .error .notFound =>
        match parentText path with
        | none => .error .notFound
        | some parent => do
          let t' ← t.mkdirAll parent mode fuel
          match t'.mkdir path mode with
          | .ok t'' => .ok t''
          | .error e => if t'.isDir path then .ok t' else .error e
      | .error e => if t.isDir path then .ok t else .error e

def read (t : FileTree) (path : String) : Except IoError (List UInt8) :=
  match t.stat path with
  | .ok (.file bytes _) => .ok bytes
  | .ok (.dir _) => .error .isADirectory
  | .error e => .error e

def touch (t : FileTree) (path : String) (mode : Nat) : Except IoError FileTree :=
  match names path with
  | none => .error .notFound
  | some ([], _) => .error .isADirectory
  | some (ns, mustBeDir) => do
    let p ← t.locate (t.origin path) ns
    if mustBeDir then throw .isADirectory
    match t.lookup p with
    | some (.dir _) => .error .isADirectory
    | some (.file ..) => pure t
    | none => pure (t.put p (.file [] mode))

def joinName (dir name : String) : String :=
  if dir.endsWith "/" then dir ++ name else dir ++ "/" ++ name

def fileName (path : String) : String :=
  match names path with
  | some (ns, _) =>
    match ns.getLast? with
    | some n => if n == ".." then "" else n
    | none => ""
  | none => ""

/-- Makes an empty file of mode 600 in a directory, under the first name made of `stem` and a
number that the directory does not hold: the file's place and path, and the tree with it. When
the directory holds all the names of as many numbers as the tree has entries, it gives up with
`alreadyExists`. -/
def createTemp (t : FileTree) (dir stem : String) :
    Except IoError (List String × String × FileTree) := do
  let (p, _) ← t.place dir
  match t.lookup p with
  | some (.dir _) =>
    let free := ((List.range (t.entries.length + 1)).map fun k => stem ++ toString k).find?
      fun name => (t.lookup (p ++ [name])).isNone
    match free with
    | some name => pure (p ++ [name], joinName dir name, t.put (p ++ [name]) (.file [] 0o600))
    | none => throw .alreadyExists
  | some (.file ..) => throw .notADirectory
  | none => throw .notFound

def overwrite (t : FileTree) (p : List String) (bytes : List UInt8) : Except IoError FileTree :=
  match t.lookup p with
  | some (.file _ mode) => .ok (t.put p (.file bytes mode))
  | some (.dir _) => .error .isADirectory
  | none => .error .notFound

def size (t : FileTree) (p : List String) : Except IoError Nat :=
  match t.lookup p with
  | some (.file bytes _) => .ok bytes.length
  | some (.dir _) => .error .isADirectory
  | none => .error .notFound

def setMode (t : FileTree) (p : List String) (mode : Nat) : Except IoError FileTree :=
  match t.lookup p with
  | some (.file bytes _) => .ok (t.put p (.file bytes mode))
  | some (.dir _) => .error .isADirectory
  | none => .error .notFound

/-- Renames the file at a place over a path, which then holds the file while the place holds
nothing. Renaming onto a path that must name a directory, or over a directory, fails. -/
def rename (t : FileTree) (src : List String) (dest : String) : Except IoError FileTree :=
  match names dest with
  | none => .error .notFound
  | some ([], _) => .error .isADirectory
  | some (ns, mustBeDir) => do
    let p ← t.locate (t.origin dest) ns
    if mustBeDir then throw .notADirectory
    match t.lookup src, t.lookup p with
    | none, _ => .error .notFound
    | _, some (.dir _) => .error .isADirectory
    | some e, _ => .ok ((t.remove src).put p e)

def plant (t : FileTree) (path : String) (e : FsEntry) : FileTree :=
  match names path with
  | none => t
  | some ([], _) => t
  | some (ns, _) =>
    let p := t.origin path ++ ns
    let parents := (List.range p.length).drop 1 |>.map fun k => p.take k
    let t := parents.foldl (fun t q =>
      match t.lookup q with
      | none => t.put q (.dir 0o755)
      | some _ => t) t
    t.put p e

def children (t : FileTree) (p : List String) : List String :=
  let names := t.entries.filterMap fun (q, _) =>
    if q.length == p.length + 1 && q.take p.length == p then q.getLast? else none
  names.mergeSort (fun a b => decide (a ≤ b))

/-- Every entry below a directory, depth first, each directory's names sorted, a directory
before what it holds; with the path relative to the directory. -/
def walk (t : FileTree) (p : List String) : Nat → List (List String × FsEntry)
  | 0 => []
  | fuel + 1 =>
    (t.children p).flatMap fun name =>
      let q := p ++ [name]
      match t.lookup q with
      | some (.dir m) => (q, .dir m) :: t.walk q fuel
      | some e => [(q, e)]
      | none => []

def all (t : FileTree) : List (List String × FsEntry) := t.walk [] (t.entries.length + 1)

end FileTree

end SealedPillar

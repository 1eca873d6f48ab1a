import SealedPillar.Host.Machine
import SealedPillar.Pillar

/-!
Reading and writing pillar files on the host.

Reading a missing file creates it, empty and private (mode 600), with any missing parent
directories (mode 700), and reads as the empty text; reading a directory is an error of its own.
Writing a file is atomic: its bytes go into a new temporary file in the target's directory, named
after the target with the prefix `gsp-`, which is synced, measured, made private and then renamed
over the target. A hook runs on the temporary file just before the rename. When any step before
the rename ends, or the rename itself fails, the temporary file is removed and the target is as it
was. Standard input is read whole and must be UTF-8; standard output takes the text as it is.
-/

namespace SealedPillar

namespace Store

def area : String := "secure_pillar::core::store"

def createDirs (dir : String) : HostM (Except Error Unit) := do
  let t := (← get).files
  if dir.isEmpty || t.exists? dir then pure (.ok ())
  else
    match t.mkdirAll dir 0o700 (dir.length + 1) with
    | .ok t' => do Host.setFiles t'; pure (.ok ())
    | .error e => pure (.error (.store (.createDir dir e)))

def read : Source → HostM (Except Error String)
  | .stdin => do
    match Text.decodeUtf8 (← Host.takeStdin) with
    | .ok s => pure (.ok s)
    | .error _ => pure (.error (.store (.read "stdin" .invalidUtf8)))
  | .file p => do
    let t := (← get).files
    if !t.exists? p then
      Host.emit area .debug "creating missing pillar file" [("path", p)]
      let made ← match FileTree.parentText p with
        | some parent => createDirs parent
        | none => pure (.ok ())
      match made with
      | .error e => pure (.error e)
      | .ok () =>
        match (← get).files.touch p 0o600 with
        | .ok t' => do Host.setFiles t'; pure (.ok "")
        | .error e => pure (.error (.store (.read p e)))
    else if t.isDir p then pure (.error (.store (.isDirectory p)))
    else
      match t.read p with
      | .error e => pure (.error (.store (.read p e)))
      | .ok bytes =>
        match Text.decodeUtf8 bytes with
        | .ok s => pure (.ok s)
        | .error _ => pure (.error (.store (.read p .invalidUtf8)))

def tempPrefix : String := "gsp-"

/-- A call to the file system as a step of a write to `dest`: the disk's error for the step if it
has one, and otherwise the call's answer from the files. -/
def ioCall {α : Type} (dest : String) (s : WriteStep) (call : FileTree → Except IoError α) :
    ExceptT Error HostM α := do
  let h ← get
  match h.disk s, call h.files with
  | some e, _ => throw (.store (.write dest e))
  | none, .error e => throw (.store (.write dest e))
  | none, .ok a => pure a

def ioChange (dest : String) (s : WriteStep) (change : FileTree → Except IoError FileTree) :
    ExceptT Error HostM Unit := do
  let t ← ioCall dest s change
  Host.setFiles t

def prepareTemp (dest : String) (tmp : List String) (tmpPath : String) (bytes : List UInt8)
    (beforeCommit : String → HostM (Except IoError Unit)) : ExceptT Error HostM Unit := do
  ioChange dest .writeAll (·.overwrite tmp bytes)
  ioCall dest .syncAll fun _ => .ok ()
  let copied ← ioCall dest .metadata (·.size tmp)
  if copied != bytes.length then throw (.store (.shortCopy tmpPath copied bytes.length))
  ioChange dest .setPermissions (·.setMode tmp 0o600)
  ExceptT.mk (do
    match ← beforeCommit tmpPath with
    | .ok () => pure (.ok ())
    | .error e => pure (.error (.store (.write dest e))))

def tempDir (dest : String) : String :=
  match FileTree.parentText dest with
  | some q => if q.isEmpty then "." else q
  | none => "."

/-- What an atomic write does once its temporary file is made: the steps before the rename, and
the rename; when one of them fails the temporary file is removed. Answers the number of bytes
written. -/
def commitTemp (dest : String) (tmp : List String) (tmpPath : String) (bytes : List UInt8)
    (beforeCommit : String → HostM (Except IoError Unit)) : HostM (Except Error Nat) := do
  let committed ← (prepareTemp dest tmp tmpPath bytes beforeCommit >>= fun () =>
    ioChange dest .persist (·.rename tmp dest)).run
  match committed with
  | .error e =>
    -- dropping the temporary file removes it
    Host.setFiles ((← get).files.remove tmp)
    pure (.error e)
  | .ok () =>
    Host.emit area .debug "atomic write complete" [("path", dest), ("bytes", toString bytes.length)]
    pure (.ok bytes.length)

/-- Replaces `dest` by `bytes` at once, through a temporary file beside it, running `beforeCommit`
on the temporary file before the rename. -/
def writeAtomic (dest : String) (bytes : List UInt8)
    (beforeCommit : String → HostM (Except IoError Unit)) : HostM (Except Error Nat) := do
  match ← createDirs (tempDir dest) with
  | .error e => pure (.error e)
  | .ok () =>
    let made ← (ioCall dest .createTemp
      (·.createTemp (tempDir dest) (tempPrefix ++ FileTree.fileName dest))).run
    match made with
    | .error e => pure (.error e)
    | .ok (tmp, tmpPath, t) =>
      Host.setFiles t
      commitTemp dest tmp tmpPath bytes beforeCommit

def write : Sink → String → HostM (Except Error Nat)
  | .stdout, text => do
    Host.writeOut text
    pure (.ok text.utf8ByteSize)
  | .file p, text => do
    match ← writeAtomic p (Text.utf8Bytes text) (fun _ => pure (.ok ())) with
    | .error e => pure (.error e)
    | .ok n =>
      Host.emit area .info ("wrote out to file: '" ++ p ++ "'") []
      pure (.ok n)

def storage : Storage HostM := ⟨read, write⟩

end Store

end SealedPillar

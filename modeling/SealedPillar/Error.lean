import SealedPillar.Document
import SealedPillar.Cipher.Armor

/-!
The errors of the library, by the part of the work that failed.

Reading and writing files fails with an `IoError`, whose text is the operating system's message
with its error number (`Is a directory (os error 21)`). Store and configuration errors wrap such
causes with the file they concern.
-/

namespace SealedPillar

inductive IoError where
  | notFound
  | notADirectory
  | isADirectory
  | alreadyExists
  | permissionDenied
  | noSpace
  | inputOutput
  /-- A file's bytes are not UTF-8. -/
  | invalidUtf8
  /-- An error with a text of its own. -/
  | other (text : String)
  deriving Inhabited, DecidableEq

def IoError.message : IoError → String
  | .notFound => "No such file or directory (os error 2)"
  | .notADirectory => "Not a directory (os error 20)"
  | .isADirectory => "Is a directory (os error 21)"
  | .alreadyExists => "File exists (os error 17)"
  | .permissionDenied => "Permission denied (os error 13)"
  | .noSpace => "No space left on device (os error 28)"
  | .inputOutput => "Input/output error (os error 5)"
  | .invalidUtf8 => "stream did not contain valid UTF-8"
  | .other text => text

inductive StoreError where
  | createDir (path : String) (cause : IoError)
  | read (path : String) (cause : IoError)
  | write (path : String) (cause : IoError)
  /-- The temporary file of a write holds another number of bytes than were written. -/
  | shortCopy (path : String) (copied expected : Nat)
  | isDirectory (path : String)
  | notADirectory (path : String)
  deriving Inhabited

def StoreError.message : StoreError → String
  | .createDir p e => "error creating sls path " ++ p ++ ": " ++ e.message
  | .read p e => "unable to read " ++ p ++ ": " ++ e.message
  | .write p e => "unable to write " ++ p ++ ": " ++ e.message
  | .shortCopy p copied expected =>
    p ++ ": " ++ toString copied ++ "/" ++ toString expected ++ " bytes copied"
  | .isDirectory p => p ++ " is a directory"
  | .notADirectory p => p ++ " is not a directory"

inductive ConfigError where
  | unreadable (cause : IoError)
  /-- The file is not a valid configuration; the text says where and why. -/
  | parse (detail : String)
  | profileNotFound (name : String)
  | noHome
  deriving Inhabited

def ConfigError.message : ConfigError → String
  | .unreadable e => "failed to read config file: " ++ e.message
  | .parse d => "failed to parse config file: " ++ d
  | .profileNotFound n => "profile not found: " ++ n
  | .noHome => "unable to determine home directory"

inductive Error where
  | document (e : DocumentError)
  | path (e : PathError)
  | cipher (e : CipherError)
  | store (e : StoreError)
  | config (e : ConfigError)
  deriving Inhabited

def Error.message : Error → String
  | .document e => e.message
  | .path e => e.message
  | .cipher e => e.message
  | .store e => e.message
  | .config e => e.message

end SealedPillar

import Retrofit.Disk.Path
import Retrofit.Disk.RawPath

/-! What a run needs of the system it runs on. -/
namespace Retrofit

inductive Refusal where
  | notFound
  | exists
  | notDirectory
  | isDirectory
  | nameTooLong
  | notText
  | nulInPath
  | other (message : String)
  deriving DecidableEq

def Refusal.message : Refusal → String
  | .notFound => "No such file or directory (os error 2)"
  | .exists => "File exists (os error 17)"
  | .notDirectory => "Not a directory (os error 20)"
  | .isDirectory => "Is a directory (os error 21)"
  | .nameTooLong => "File name too long (os error 36)"
  | .notText => "stream did not contain valid UTF-8"
  | .nulInPath => "file name contained an unexpected NUL byte"
  | .other message => message

/-- The access to files, whose effects are those of `m`. Files that are read may have names that are no
text. -/
structure Host (m : Type → Type) where
  readText : (path : RawPath) → m (Except Refusal String)
  isDirectory : (path : String) → m Bool
  makeDirectory : (path : String) → m (Except Refusal Unit)
  writeText : (path content : String) → m (Except Refusal Unit)

namespace Host

variable {m : Type → Type} [Monad m]

/-- A directory that cannot be made is no matter if it is there already. -/
def unlessThere (host : Host m) (path : String) (r : Refusal) : m (Except Refusal Unit) := do
  return if ← host.isDirectory path then .ok () else .error r

/-- Makes the directory of a path with so many parts, and those above it that are missing. -/
def makeAll (host : Host m) : (parts : Nat) → Path → m (Except Refusal Unit)
  | 0, _ => return .ok ()
  | n + 1, p => do
    if p.text = "" then return .ok ()
    match ← host.makeDirectory p.text with
    | .ok () => return .ok ()
    | .error .notFound =>
      match p.parent? with
      | none => return .error (.other "failed to create whole tree")
      | some above =>
        match ← makeAll host n above with
        | .error r => return .error r
        | .ok () =>
          match ← host.makeDirectory p.text with
          | .ok () => return .ok ()
          | .error r => host.unlessThere p.text r
    | .error r => host.unlessThere p.text r

def makeDirectories (host : Host m) (p : Path) : m (Except Refusal Unit) :=
  makeAll host (p.parts.length + 1) p

/-- Writes a file, after the directory it goes into. -/
def place (host : Host m) (path content : String) : m (Except Refusal Unit) := do
  let made ← match (Path.ofText path).parent? with
    | some above => host.makeDirectories above
    | none => pure (.ok ())
  match made with
  | .error r => return .error r
  | .ok () => host.writeText path content

end Host

end Retrofit

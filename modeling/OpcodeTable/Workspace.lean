import OpcodeTable.FileError
/-!
# A working directory

A directory tree of files and directories, addressed by relative paths. Directories are those
created on their own and every directory that holds something. Paths are split at `/`, and
empty and `.` components are dropped, so `a//b` and `./a/b` name `a/b`.

Reading and writing fail the way a file system does: a path through a file is not a directory,
a directory cannot be read or written as a file, and a file can be written only into an
existing directory. A path written with a final `/`, `.` or `..` names a directory: a file
there is not a directory, and nothing can be created there as a file.

A path is followed one component at a time (`Workspace.locate`): each component before the
last must be a directory, `.` stays in it and `..` steps back to the directory above. A name
longer than 255 bytes, or a path of 4096 bytes or more, is too long. The working directory
sits in the temporary directory `/tmp`, so `..` at its top, like a path starting with `/`,
leads outside, where only a few things are known (`Outside`): the root, `/tmp`, `/dev`, the
null device `/dev/null` and the full device `/dev/full`. The empty path names nothing.
-/

namespace OpcodeTable

/-- A relative path, as its components. -/
abbrev Path := List String

/-- The components of a path written with `/`. -/
def Path.ofString (s : String) : Path :=
  (s.splitOn "/").filter fun c => c != "" && c != "."

/-- Files with their bytes, and directories, by path. -/
structure Workspace where
  files : List (Path × List UInt8)
  dirs : List Path
deriving Repr

namespace Workspace

/-- The empty directory. -/
def empty : Workspace := ⟨[], []⟩

/-- Whether `p` names a file. -/
def isFile (w : Workspace) (p : Path) : Bool :=
  w.files.any (·.1 == p)

/-- Whether `p` names a directory: the top, a directory created on its own, or a directory
that holds a file or a directory. -/
def isDir (w : Workspace) (p : Path) : Bool :=
  p.isEmpty || w.dirs.any (fun d => p.isPrefixOf d) ||
    w.files.any fun (f, _) => p.isPrefixOf f && p != f

/-- Whether some directory on the way to `p` is a file. -/
def throughFile (w : Workspace) (p : Path) : Bool :=
  (List.range p.length).any fun n => w.isFile (p.take n)

/-- Whether `p` names a file or a directory. -/
def pathExists (w : Workspace) (p : Path) : Bool :=
  !w.throughFile p && (w.isFile p || w.isDir p)

/-- The bytes of the file at `p`. -/
def read (w : Workspace) (p : Path) : Except FileError (List UInt8) :=
  if w.throughFile p then .error .notDirectory
  else match w.files.find? (·.1 == p) with
    | some (_, bytes) => .ok bytes
    | none => if w.isDir p then .error .isDirectory else .error .notFound

/-- Writes the file at `p`, replacing what it held. -/
def write (w : Workspace) (p : Path) (bytes : List UInt8) : Except FileError Workspace :=
  if w.throughFile p then .error .notDirectory
  else if w.isDir p then .error .isDirectory
  else if !w.isDir p.dropLast then .error .notFound
  else if w.isFile p then
    .ok { w with files := w.files.map fun (f, b) => (f, if f == p then bytes else b) }
  else .ok { w with files := w.files ++ [(p, bytes)] }

/-- Where a path leads: into the working directory or outside it, by components from the top
(with `dirOnly` when it was written so that it can only name a directory), or nowhere, with the
error met on the way. -/
inductive Place where
  | inside (path : Path) (dirOnly : Bool)
  | outside (path : Path) (dirOnly : Bool)
  | blocked (e : FileError)
deriving Repr, DecidableEq

/-- Follows components outside the working directory, from `base`; `.` stays where it is, and
`..` at the root stays there. -/
def outsidePath (base : Path) (cs : List String) : Path :=
  cs.foldl (fun p c => if c == ".." then p.dropLast else if c == "." then p else p ++ [c]) base

/-- The longest name a directory may hold, in bytes. -/
def nameMax : Nat := 255

/-- The longest path the system takes, in bytes, with the zero byte that ends it. -/
def pathMax : Nat := 4096

/-- Follows components from the directory `cur` of the working directory. Each component is
looked up in the directory reached so far, which refuses a name longer than `nameMax`. A
component before the last must be a directory: `.` stays in it and `..` steps back. -/
def walk (w : Workspace) (dirOnly : Bool) : Path → List String → Place
  | cur, [] => .inside cur dirOnly
  | cur, "." :: rest => walk w dirOnly cur rest
  | cur, ".." :: rest =>
    if cur.isEmpty then .outside (outsidePath ["tmp"] rest) dirOnly
    else walk w dirOnly cur.dropLast rest
  | cur, [c] =>
    if nameMax < c.utf8ByteSize then .blocked .nameTooLong else .inside (cur ++ [c]) dirOnly
  | cur, c :: rest =>
    let next := cur ++ [c]
    if nameMax < c.utf8ByteSize then .blocked .nameTooLong
    else if w.isFile next then .blocked .notDirectory
    else if w.isDir next then walk w dirOnly next rest
    else .blocked .notFound

/-- Where a path written with `/` leads. A path as long as `pathMax` or longer is refused
whole. -/
def locate (w : Workspace) (s : String) : Place :=
  let raw := s.splitOn "/"
  let cs := raw.filter (· != "")
  let dirOnly := raw.getLast?.any fun c => c == "" || c == "." || c == ".."
  if s.isEmpty then .blocked .notFound
  else if pathMax ≤ s.utf8ByteSize then .blocked .nameTooLong
  else if s.startsWith "/" then
    if cs.any (nameMax < ·.utf8ByteSize) then .blocked .nameTooLong
    else .outside (outsidePath [] cs) dirOnly
  else walk w dirOnly [] cs

end Workspace

/-!
## Outside the working directory
-/

namespace Outside

/-- The directories known outside the working directory: the root, the temporary directory
that holds the working directory, and the device directory. -/
def dirs : List Path := [[], ["tmp"], ["dev"]]

/-- The null device: it reads as empty and swallows what is written to it. -/
def nullDevice : Path := ["dev", "null"]

/-- The full device: writing to it fails for want of room. Reading it gives zero bytes
without end, which is no dataset; it is read here as empty. -/
def fullDevice : Path := ["dev", "full"]

/-- Whether `p` names a device. -/
def isDevice (p : Path) : Bool := p == nullDevice || p == fullDevice

/-- Whether the way to `p` passes through a device, which is no directory. -/
def throughDevice (p : Path) : Bool :=
  (List.range p.length).any fun n => isDevice (p.take n)

/-- Whether a path outside names something. -/
def pathExists (p : Path) (dirOnly : Bool) : Bool :=
  !throughDevice p && (dirs.contains p || (!dirOnly && isDevice p))

/-- Reads a file outside: only the devices can be read, and they are empty. -/
def read (p : Path) (dirOnly : Bool) : Except FileError (List UInt8) :=
  if throughDevice p then .error .notDirectory
  else if dirs.contains p then .error .isDirectory
  else if isDevice p then if dirOnly then .error .notDirectory else .ok []
  else .error .notFound

/-- Writes a file outside: what is written there is not seen again. -/
def write (p : Path) (dirOnly : Bool) : Except FileError Unit :=
  if throughDevice p then .error .notDirectory
  else if dirs.contains p then .error .isDirectory
  else if isDevice p then
    if dirOnly then .error .notDirectory
    else if p == fullDevice then .error .noSpace
    else .ok ()
  else if !dirs.contains p.dropLast then .error .notFound
  else if dirOnly then .error .isDirectory
  else .ok ()

end Outside

namespace Workspace

/-- Whether a place names something: a directory, or a file when it may name one. -/
def existsAt (w : Workspace) : Place → Bool
  | .inside p dirOnly => if dirOnly then !w.throughFile p && w.isDir p else w.pathExists p
  | .outside p dirOnly => Outside.pathExists p dirOnly
  | .blocked _ => false

/-- The bytes of the file a place names. -/
def readAt (w : Workspace) : Place → Except FileError (List UInt8)
  | .inside p dirOnly =>
    if dirOnly && !w.throughFile p && w.isFile p then .error .notDirectory else w.read p
  | .outside p dirOnly => Outside.read p dirOnly
  | .blocked e => .error e

/-- Writes the file a place names; a place that can only name a directory cannot be
written. -/
def writeAt (w : Workspace) (place : Place) (bytes : List UInt8) : Except FileError Workspace :=
  match place with
  | .inside p dirOnly =>
    if dirOnly && !w.throughFile p then
      if w.isFile p then .error .notDirectory
      else if !w.isDir p && !w.isDir p.dropLast then .error .notFound
      else .error .isDirectory
    else w.write p bytes
  | .outside p dirOnly => (Outside.write p dirOnly).map fun _ => w
  | .blocked e => .error e

/-- Creates a directory and the directories above it. -/
def makeDir (w : Workspace) (p : Path) : Workspace :=
  { w with dirs := w.dirs ++ [p] }

/-- Puts a file in place, creating the directories above it. -/
def putFile (w : Workspace) (p : Path) (bytes : List UInt8) : Workspace :=
  if w.isFile p then { w with files := w.files.map fun (f, b) => (f, if f == p then bytes else b) }
  else { w with files := w.files ++ [(p, bytes)] }

end Workspace

end OpcodeTable

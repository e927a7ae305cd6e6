import Transducer.Disk.Basic

/-!
# Replacing a file as a whole

A file is written beside its target under a temporary name and takes the target's place when it is
complete. If anything fails before that, the temporary file is removed.
-/

namespace Transducer

/-- Why a file was not replaced. -/
inductive ReplaceError (ε : Type) where
  /-- The disk refused the temporary file or the exchange. -/
  | disk (e : DiskError)
  /-- The one who wrote the content gave up. -/
  | writer (e : ε)
  deriving DecidableEq, Repr

namespace Disk

/-- The names of a path from the root, double dots resolved without a look at the disk. -/
def resolveDots (seen : List Text) : List Text → List Text
  | [] => seen
  | part :: rest =>
    if part = ".." then resolveDots seen.dropLast rest else resolveDots (seen ++ [part]) rest

/-- The absolute path of a directory, double dots resolved without a look at the disk. -/
def absolute (d : Disk) (p : Path) : Path :=
  match p.root with
  | .here => ⟨.top, resolveDots (d.home.map Name.text) p.parts⟩
  | root => ⟨root, resolveDots [] p.parts⟩

/-- The temporary file for a target: `tag` is a word that no other temporary file has. -/
def temporary (d : Disk) (tag : String) (target : Path) : Path :=
  let directory := d.absolute target.parent
  { directory with parts := directory.parts ++ ["." ++ target.name ++ "." ++ tag ++ ".tmp"] }

/-- Makes an empty file where nothing is yet, and gives its place. -/
def create (d : Disk) (path : Text) : Except Refusal (Location × Disk) := do
  match ← d.slot path with
  | (_, none) => .error .isDirectory
  | (l, some name) =>
    if (d.get? (l ++ [name])).isSome then .error .fileExists
    else .ok (l ++ [name], d.put (l ++ [name]) (.file []))

/-- Moves a file to a path, where it takes the place of a file that may be there. -/
def rename (d : Disk) (source : Location) (target : Text) : Except Refusal Disk := do
  match ← d.slot target with
  | (_, none) => .error .busy
  | (l, some name) =>
    match d.get? (l ++ [name]), d.get? source with
    | some .directory, _ => .error .isDirectory
    | _, some item => .ok ((d.erase source).put (l ++ [name]) item)
    | _, none => .error .noEntry

/-- Replaces a file by what a writer delivers in pieces; the writer may give up at the end. This is
`atomic_write`. -/
def replace (d : Disk) (tag : String) (target : Path) (pieces : List (List UInt8))
    (outcome : Except ε Unit) : Except (ReplaceError ε) Unit × Disk :=
  let path := (d.temporary tag target).text
  match d.create path with
  | .error refusal => (.error (.disk ⟨refusal, path, none⟩), d)
  | .ok (place, opened) =>
    let written := opened.put place (.file pieces.flatten)
    match outcome with
    | .error e => (.error (.writer e), written.erase place)
    | .ok () =>
      match written.rename place target.text with
      | .ok replaced => (.ok (), replaced)
      | .error refusal =>
        (.error (.disk ⟨refusal, path, some target.text⟩), written.erase place)

end Disk

end Transducer

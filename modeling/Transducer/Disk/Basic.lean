import Transducer.Disk.Name
import Transducer.Disk.Path
import Transducer.Text.Quoted

/-!
# Disks

The directories and files that a run can see. A look-up follows the names of a path one by one, and
every name before the last has to be that of a directory.
-/

namespace Transducer

/-- A place on a disk: the names from the root on. -/
abbrev Location := List Name

/-- What is at a place. -/
inductive Item where
  | directory
  | file (content : List UInt8)
  deriving DecidableEq, Repr

/-- What a disk holds, and the directory in which the program runs. -/
structure Disk where
  home : Location
  items : List (Location × Item)
  deriving DecidableEq, Repr

/-- Why an operation on a disk is refused. -/
inductive Refusal where
  | noEntry
  | busy
  | fileExists
  | notDirectory
  | isDirectory
  | nameTooLong
  /-- The path holds a null character, which no name can hold. -/
  | nullCharacter
  /-- The path holds half of a surrogate pair that stands for no byte. -/
  | noName
  /-- More directories are missing than are made at once. -/
  | manyMissing
  deriving DecidableEq, Repr

namespace Refusal

/-- The number of a refusal. -/
def number : Refusal → Nat
  | .noEntry => 2
  | .busy => 16
  | .fileExists => 17
  | .notDirectory => 20
  | .isDirectory => 21
  | .nameTooLong => 36
  | .nullCharacter => 22
  | .noName => 84
  | .manyMissing => 40

/-- The wording of a refusal. -/
def message : Refusal → String
  | .noEntry => "No such file or directory"
  | .busy => "Device or resource busy"
  | .fileExists => "File exists"
  | .notDirectory => "Not a directory"
  | .isDirectory => "Is a directory"
  | .nameTooLong => "File name too long"
  | .nullCharacter => "Invalid argument"
  | .noName => "Invalid or incomplete multibyte or wide character"
  | .manyMissing => "Too many missing directories"

/-- Whether a report can tell of the refusal; it is about the state of a disk then, neither about
the spelling of a path nor about the extent of the work. -/
def isReported : Refusal → Bool
  | .nullCharacter => false
  | .noName => false
  | .manyMissing => false
  | _ => true

end Refusal

/-- An operation that was refused, with the path or the two paths it was about. -/
structure DiskError where
  refusal : Refusal
  path : Text
  second : Option Text := none
  deriving DecidableEq, Repr

/-- The wording of a refused operation. -/
def DiskError.message (e : DiskError) : Text :=
  let head := s!"[Errno {e.refusal.number}] {e.refusal.message}: " ++ Text.quote e.path
  match e.second with
  | none => head
  | some second => head ++ " -> " ++ Text.quote second

namespace Disk

/-- What is at a place; the root is always a directory. -/
def get? (d : Disk) (l : Location) : Option Item :=
  if l = [] then some .directory else d.items.lookup l

/-- The disk without what is at a place. -/
def erase (d : Disk) (l : Location) : Disk :=
  { d with items := d.items.filter fun item => item.1 ≠ l }

/-- The disk with an item at a place. -/
def put (d : Disk) (l : Location) (item : Item) : Disk :=
  { d.erase l with items := (l, item) :: (d.erase l).items }

/-- Whether the place holds a directory. -/
def isDirectoryAt (d : Disk) (l : Location) : Bool := d.get? l = some .directory

/-- The greatest number of bytes in a name. -/
def nameLimit : Nat := 255

/-- The greatest number of bytes in a path. -/
def pathLimit : Nat := 4095

/-- Whether a name is longer than a disk allows. -/
def isTooLong (name : Name) : Bool := nameLimit < name.length

/-- One step of a look-up, from a place that exists. -/
def step (d : Disk) (l : Location) (name : Name) : Except Refusal Location :=
  if !d.isDirectoryAt l then .error .notDirectory
  else if name = [] || name = .self then .ok l
  else if name = .above then .ok l.dropLast
  else if isTooLong name then .error .nameTooLong
  else if (d.get? (l ++ [name])).isSome then .ok (l ++ [name])
  else .error .noEntry

/-- The place that some names lead to, from a place that exists. -/
def walk (d : Disk) (l : Location) : List Name → Except Refusal Location
  | [] => .ok l
  | name :: rest => do walk d (← d.step l name) rest

/-- The place from which a path starts, and the names on it. -/
def route (d : Disk) (path : Text) : Except Refusal (Location × List Name) :=
  match Name.ofText? path with
  | none => .error .noName
  | some bytes =>
    if bytes.contains 0 then .error .nullCharacter
    else if bytes.isEmpty then .error .noEntry
    else if pathLimit < bytes.length then .error .nameTooLong
    else
      let start := if bytes.head? = some Name.separator then [] else d.home
      .ok (start, Text.splitAt Name.separator bytes)

/-- The place that a path leads to. -/
def locate (d : Disk) (path : Text) : Except Refusal Location := do
  let (start, names) ← d.route path
  d.walk start names

/-- What a path leads to. -/
def stat (d : Disk) (path : Text) : Except Refusal Item := do
  let l ← d.locate path
  match d.get? l with
  | some item => .ok item
  | none => .error .noEntry

/-- Whether a path leads to a directory. -/
def isDirectory (d : Disk) (path : Text) : Bool :=
  match d.stat path with
  | .ok .directory => true
  | _ => false

/-- What a path leads to, if anything does; a name that is too long cannot be looked up at all. -/
def find? (d : Disk) (path : Text) : Except DiskError (Option Item) :=
  match d.stat path with
  | .ok item => .ok (some item)
  | .error .nameTooLong => .error ⟨.nameTooLong, path, none⟩
  | .error _ => .ok none

/-- The content of a file. -/
def read (d : Disk) (path : Text) : Except DiskError (List UInt8) :=
  match d.stat path with
  | .ok (.file content) => .ok content
  | .ok .directory => .error ⟨.isDirectory, path, none⟩
  | .error refusal => .error ⟨refusal, path, none⟩

/-- Where something new would be put that is to have a name in a place: the directory and the name,
or none if the name is not one of its own. -/
def slotIn (d : Disk) (l : Location) (name : Name) : Except Refusal (Location × Option Name) :=
  if !d.isDirectoryAt l then .error .notDirectory
  else if name = [] || name = .self || name = .above then .ok (l, none)
  else if isTooLong name then .error .nameTooLong
  else .ok (l, some name)

/-- Where something new would be put that is to have a path. -/
def slot (d : Disk) (path : Text) : Except Refusal (Location × Option Name) := do
  let (start, names) ← d.route path
  d.slotIn (← d.walk start names.dropLast) (names.getLast?.getD [])

/-- Makes one directory, and gives its place. -/
def makeIn (d : Disk) : Location × Option Name → Except Refusal (Location × Disk)
  | (_, none) => .error .fileExists
  | (l, some name) =>
    if (d.get? (l ++ [name])).isSome then .error .fileExists
    else .ok (l ++ [name], d.put (l ++ [name]) .directory)

/-- Makes the directory of a path. -/
def makeDirectory (d : Disk) (path : Text) : Except Refusal (Location × Disk) := do
  d.makeIn (← d.slot path)

/-- The outcome of making a directory: one that is there already is as good as a new one. -/
def madeOr (d : Disk) (path : Text) :
    Except Refusal (Location × Disk) → Except DiskError Location × Disk
  | .ok (l, made) => (.ok l, made)
  | .error refusal =>
    match d.locate path with
    | .ok l => if d.isDirectoryAt l then (.ok l, d) else (.error ⟨refusal, path, none⟩, d)
    | .error _ => (.error ⟨refusal, path, none⟩, d)

/-- Makes a directory and those above it that are missing, as far as it goes, and gives its place;
there is room for `room` missing directories above it. -/
def makePath (p : Path) (room : Nat) (d : Disk) : Except DiskError Location × Disk :=
  match d.makeDirectory p.text with
  | .error .noEntry =>
    if p.parts.isEmpty then (.error ⟨.noEntry, p.text, none⟩, d)
    else
      match room with
      | 0 => (.error ⟨.manyMissing, p.text, none⟩, d)
      | room + 1 =>
        match makePath p.parent room d with
        | (.error e, d) => (.error e, d)
        | (.ok above, d) =>
          let name := (Name.ofText? p.name).getD []
          d.madeOr p.text (d.slotIn above name >>= d.makeIn)
  | made => d.madeOr p.text made

/-- Makes a directory and those above it that are missing, of which there is room for `room`. -/
def makeDirectories (d : Disk) (room : Nat) (p : Path) : Except DiskError Unit × Disk :=
  match makePath p room d with
  | (.ok _, d) => (.ok (), d)
  | (.error e, d) => (.error e, d)

end Disk

end Transducer

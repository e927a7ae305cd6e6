import Transducer.Halt

/-!
# Text files
-/

namespace Transducer

/-- Why a text file cannot be read. -/
inductive ReadError where
  | disk (e : DiskError)
  | encoding (e : Text.Utf8.Failure)
  deriving DecidableEq, Repr

/-- The wording of a failure to read. -/
def ReadError.message : ReadError → Text
  | .disk e => e.message
  | .encoding e => e.message

/-- What becomes of a failure to read that a report is at hand for. -/
def ReadError.halt (e : ReadError) (r : Report) : Halt :=
  match e with
  | .disk e => e.halt r
  | .encoding _ => .report r

/-- The text of a file in UTF-8, with one kind of line end. -/
def Disk.readText (d : Disk) (path : Path) : Except ReadError String :=
  match d.read path.text with
  | .error e => .error (.disk e)
  | .ok bytes =>
    match Text.Utf8.decode bytes with
    | .error e => .error (.encoding e)
    | .ok text => .ok (String.ofList (Text.unifyBreaks text.toList))

end Transducer

import Transducer.Text.CodePoint

/-!
# Options

The options of a command as they are written: long ones with two dashes, and short ones, of which
several may follow one dash. A value is attached to its option or is the next argument. Arguments
are texts, since an argument that is no UTF-8 text has halves of surrogate pairs for its bytes.
-/

namespace Transducer.CommandLine

/-- An option of a command; `κ` has a name for each. -/
structure Spec (κ : Type) where
  key : κ
  short : Option Char := none
  long : String
  takesValue : Bool := true

namespace Spec

/-- The names of an option in messages. -/
def label (s : Spec κ) : String :=
  match s.short with
  | some c => s!"'-{c}' / '{s.long}'"
  | none => s!"'{s.long}'"

end Spec

/-- Why arguments cannot be read as options. -/
inductive OptionError where
  /-- No option has the name; some may be close to it. -/
  | unknown (name : Text) (close : List String)
  | needsValue (name : Text)
  | takesNoValue (name : Text)
  deriving DecidableEq, Repr

/-- The options that were given, with their values, and the other arguments. -/
structure Given (κ : Type) where
  options : List (κ × Text) := []
  rest : List Text := []

/-! ## Close names -/

/-- The length of the common start of two texts. -/
def commonStart : Text → Text → Nat
  | a :: as, b :: bs => if a = b then commonStart as bs + 1 else 0
  | _, _ => 0

/-- The better of two common blocks, given by their two starts and their length: the longer one, and
of two of one length the first. -/
def longer (x y : Nat × Nat × Nat) : Nat × Nat × Nat := if x.2.2 < y.2.2 then y else x

/-- The longest common block of two texts: the earliest one in the first, then in the second. -/
def longestBlock (a b : Text) : Nat × Nat × Nat :=
  (List.range a.length).foldl
    (fun best i =>
      (List.range b.length).foldl
        (fun best j => longer best (i, j, commonStart (a.drop i) (b.drop j))) best)
    (0, 0, 0)

/-- How many characters two texts have in common: those of the longest common block, and what the
parts before and after it have in common. -/
def commonCount : Nat → Text → Text → Nat
  | 0, _, _ => 0
  | fuel + 1, a, b =>
    let (i, j, size) := longestBlock a b
    if size = 0 then 0
    else
      size + commonCount fuel (a.take i) (b.take j) +
        commonCount fuel (a.drop (i + size)) (b.drop (j + size))

/-- A candidate with the characters it has in common with a name and the length of both. -/
structure Candidate where
  common : Nat
  total : Nat
  name : String

/-- Whether a candidate is closer than another; of two equally close ones the later name counts as
closer. -/
def Candidate.isCloser (x y : Candidate) : Bool :=
  y.common * x.total < x.common * y.total ||
    (y.common * x.total == x.common * y.total && decide (y.name < x.name))

/-- Puts a candidate in front of those that are not closer. -/
def insertCandidate (x : Candidate) : List Candidate → List Candidate
  | [] => [x]
  | y :: rest => if y.isCloser x then y :: insertCandidate x rest else x :: y :: rest

/-- The candidates that share at least three fifths of their characters with a name: at most three,
the closest. -/
def closeNames (name : Text) (candidates : List String) : List String :=
  let scored := candidates.map fun candidate =>
    let chars := Text.ofString candidate
    (⟨commonCount (chars.length + 1) chars name, chars.length + name.length, candidate⟩ : Candidate)
  let close := scored.filter fun c => 3 * c.total ≤ 10 * c.common
  ((close.foldr insertCandidate []).take 3).map Candidate.name

/-- The names in the order of their characters. -/
def sortNames (names : List String) : List String :=
  names.mergeSort fun a b => !decide (b < a)

/-! ## Reading options -/

/-- What one argument says: the options in it, and the last of them if its value is still to come,
under the name by which it was called. -/
structure Reading (κ : Type) where
  options : List (κ × Text) := []
  open? : Option (κ × Text) := none

/-- Reads the letters after one dash. -/
def readShort (specs : List (Spec κ)) : Text → Except OptionError (Reading κ)
  | [] => .ok {}
  | c :: rest =>
    let name : Text := ['-', c]
    match specs.find? fun s => s.short.map CodePoint.char == some c with
    | none => .error (.unknown name [])
    | some s =>
      if s.takesValue then
        if rest.isEmpty then .ok { open? := some (s.key, name) }
        else .ok { options := [(s.key, rest)] }
      else do
        let later ← readShort specs rest
        return { later with options := (s.key, []) :: later.options }

/-- The name in an argument, and the value after the equals sign. -/
def splitValue (arg : Text) : Text × Option Text :=
  match arg.dropWhile (· ≠ .char '=') with
  | _ :: value => (arg.takeWhile (· ≠ .char '='), some value)
  | [] => (arg, none)

/-- Reads an argument that starts with a dash. -/
def readOption (specs : List (Spec κ)) (arg : Text) : Except OptionError (Reading κ) :=
  let (name, value) := splitValue arg
  match specs.find? fun s => Text.ofString s.long == name with
  | some s =>
    match s.takesValue, value with
    | true, some value => .ok { options := [(s.key, value)] }
    | true, none => .ok { open? := some (s.key, name) }
    | false, some _ => .error (.takesNoValue name)
    | false, none => .ok { options := [(s.key, [])] }
  | none =>
    match arg with
    | .char '-' :: .char '-' :: _ =>
      .error (.unknown name (sortNames (closeNames name (specs.map Spec.long))))
    | _ => readShort specs (arg.drop 1)

/-- Whether an argument is an option: more than a dash. -/
def isOption (arg : Text) : Bool :=
  match arg with
  | .char '-' :: _ :: _ => true
  | _ => false

/-- The argument that ends the options. -/
def endMark : Text := ['-', '-']

/-- Reads arguments. Two dashes end the options; so does the first argument that is none, unless
options may stand `anywhere`. -/
def readArgs (specs : List (Spec κ)) (anywhere : Bool) :
    List Text → Except OptionError (Given κ)
  | [] => .ok {}
  | arg :: rest =>
    if arg = endMark then .ok { rest := rest }
    else if isOption arg then do
      let reading ← readOption specs arg
      match reading.open? with
      | none =>
        let later ← readArgs specs anywhere rest
        return { later with options := reading.options ++ later.options }
      | some (key, name) =>
        match rest with
        | [] => .error (.needsValue name)
        | value :: rest =>
          let later ← readArgs specs anywhere rest
          return { later with options := reading.options ++ (key, value) :: later.options }
    else if anywhere then do
      let later ← readArgs specs anywhere rest
      return { later with rest := arg :: later.rest }
    else .ok { rest := arg :: rest }

namespace Given

/-- The last value given for an option. -/
def value? [BEq κ] (g : Given κ) (key : κ) : Option Text :=
  (g.options.reverse.find? fun option => option.1 == key).map Prod.snd

/-- Whether an option was given. -/
def has [BEq κ] (g : Given κ) (key : κ) : Bool := (g.value? key).isSome

/-- The options in the order in which they are looked at: first those given, by their first
appearance, then the others as they are declared. -/
def order [BEq κ] (g : Given κ) (specs : List (Spec κ)) : List (Spec κ) :=
  let keys := (g.options.map Prod.fst).eraseDups
  keys.filterMap (fun key => specs.find? fun s => s.key == key) ++
    specs.filter fun s => !keys.contains s.key

end Given

end Transducer.CommandLine

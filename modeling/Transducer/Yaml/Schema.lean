import Transducer.Text.Lines
import Transducer.Yaml.Cursor
import Transducer.Yaml.Timestamp

/-!
# Schemas

A schema says what a plain scalar is from its text alone, by rules that are tried in order. Which
rules are tried depends on the first character of the text. There are two schemas: the standard one,
and a strict one where the only rule for truth values is for the words true and false. They are the
schemas of `SafeLoader` and `MachineLoader`.
-/

namespace Transducer.Yaml

/-- What a node is. -/
inductive Tag where
  | null
  | bool
  | int
  | float
  | binary
  | timestamp
  | omap
  | pairs
  | set
  | text
  | sequence
  | mapping
  /-- A key whose value is merged into the mapping. -/
  | merge
  /-- A key whose value stands for the mapping where a scalar is needed. -/
  | value
  /-- No value is made from such a node. -/
  | other (uri : String)
  deriving DecidableEq, Repr

/-- The tag with a given full name. -/
def Tag.ofUri (uri : String) : Tag :=
  if uri = "tag:yaml.org,2002:null" then .null
  else if uri = "tag:yaml.org,2002:bool" then .bool
  else if uri = "tag:yaml.org,2002:int" then .int
  else if uri = "tag:yaml.org,2002:float" then .float
  else if uri = "tag:yaml.org,2002:binary" then .binary
  else if uri = "tag:yaml.org,2002:timestamp" then .timestamp
  else if uri = "tag:yaml.org,2002:omap" then .omap
  else if uri = "tag:yaml.org,2002:pairs" then .pairs
  else if uri = "tag:yaml.org,2002:set" then .set
  else if uri = "tag:yaml.org,2002:str" then .text
  else if uri = "tag:yaml.org,2002:seq" then .sequence
  else if uri = "tag:yaml.org,2002:map" then .mapping
  else if uri = "tag:yaml.org,2002:merge" then .merge
  else if uri = "tag:yaml.org,2002:value" then .value
  else .other uri

/-! ## Numbers -/

/-- The text without a sign in front of it. -/
def unsigned : List Char → List Char
  | '-' :: rest => rest
  | '+' :: rest => rest
  | text => text

/-- Whether the character is a digit or an underscore. -/
def isDigitOrLine (c : Char) : Bool := c.isDigit || c = '_'

/-- Whether the text is not empty and all its characters are underscores or of the given class. -/
def isRun (p : Char → Bool) (text : List Char) : Bool :=
  !text.isEmpty && text.all fun c => c = '_' || p c

/-- Whether the text starts with a digit and goes on with digits and underscores. -/
def isDecimalRun : List Char → Bool
  | c :: rest => c.isDigit && rest.all isDigitOrLine
  | [] => false

/-- Whether the text is a place of a number in base sixty: up to two digits, below sixty. -/
def isSixtieth : List Char → Bool
  | [c] => c.isDigit
  | [c, d] => '0' ≤ c && c ≤ '5' && d.isDigit
  | _ => false

/-- Whether the text is an integer without a sign. -/
def isUnsignedInt (text : List Char) : Bool :=
  match text with
  | ['0'] => true
  | '0' :: 'b' :: digits => isRun (fun c => c = '0' || c = '1') digits
  | '0' :: 'x' :: digits => isRun isHexDigit digits
  | '0' :: digits => isRun (fun c => '0' ≤ c && c ≤ '7') digits
  | text =>
    match Text.splitAt ':' text with
    | first :: places => isDecimalRun first && places.all isSixtieth
    | [] => false

/-- Whether the text is an integer. -/
def isInt (text : List Char) : Bool := isUnsignedInt (unsigned text)

/-- Whether the text is empty or an exponent: the letter e, a sign and digits. -/
def isExponent : List Char → Bool
  | [] => true
  | e :: sign :: digits =>
    (e = 'e' || e = 'E') && (sign = '-' || sign = '+') && !digits.isEmpty && digits.all Char.isDigit
  | _ => false

/-- Whether the text is what may follow the point of a floating-point number. -/
def isFraction (text : List Char) : Bool := isExponent (text.dropWhile isDigitOrLine)

/-- Whether the text is a number with a point, without a sign. -/
def isPointed (text : List Char) : Bool :=
  match text.dropWhile isDigitOrLine with
  | '.' :: rest => isDecimalRun (text.takeWhile isDigitOrLine) && isFraction rest
  | _ => false

/-- Whether the text is a number with a point and no digit in front of it. -/
def isBarePoint : List Char → Bool
  | '.' :: c :: rest => c.isDigit && isFraction rest
  | _ => false

/-- Whether the text is the last place of a number in base sixty, with a point. -/
def isPointedSixtieth (text : List Char) : Bool :=
  match text.dropWhile (· ≠ '.') with
  | '.' :: rest => isSixtieth (text.takeWhile (· ≠ '.')) && rest.all isDigitOrLine
  | _ => false

/-- Whether the places are those of a number in base sixty of which only the last has a point. -/
def arePlaces : List (List Char) → Bool
  | [] => false
  | [last] => isPointedSixtieth last
  | place :: places => isSixtieth place && arePlaces places

/-- Whether the text is a number in base sixty with a point, without a sign. -/
def isSexagesimal (text : List Char) : Bool :=
  match Text.splitAt ':' text with
  | first :: places => isDecimalRun first && arePlaces places
  | [] => false

/-- Whether the text is a floating-point number. -/
def isFloat (text : List Char) : Bool :=
  let body := unsigned text
  isPointed body || isBarePoint text || isSexagesimal body ||
    [".inf", ".Inf", ".INF"].contains (String.ofList body) ||
    [".nan", ".NaN", ".NAN"].contains (String.ofList text)

/-! ## Rules -/

/-- A rule: plain scalars of a form have a tag. -/
structure Rule where
  tag : Tag
  form : String → Bool

namespace Rule

/-- Whether the text is of the form of a rule; a line break at its end does not count. -/
def fits (rule : Rule) (text : String) : Bool :=
  rule.form text ||
    match text.toList.reverse with
    | '\n' :: rest => rule.form (String.ofList rest.reverse)
    | _ => false

/-- Words for the truth values. -/
def truth (words : List String) : Rule := ⟨.bool, fun text => words.contains text⟩

/-- Floating-point numbers. -/
def float : Rule := ⟨.float, fun text => isFloat text.toList⟩

/-- Integers. -/
def int : Rule := ⟨.int, fun text => isInt text.toList⟩

/-- The merge key. -/
def merge : Rule := ⟨.merge, fun text => text = "<<"⟩

/-- Words for the empty value, the empty text among them. -/
def null : Rule := ⟨.null, fun text => ["~", "null", "Null", "NULL", ""].contains text⟩

/-- Points in time. -/
def timestamp : Rule := ⟨.timestamp, fun text => isTimestamp text.toList⟩

/-- The value key. -/
def value : Rule := ⟨.value, fun text => text = "="⟩

/-- Marks that have a meaning in front of a node only. -/
def mark : Rule := ⟨.other "tag:yaml.org,2002:yaml", fun text => ["!", "&", "*"].contains text⟩

end Rule

/-! ## Plain scalars -/

/-- How plain scalars are read: for each first character the rules that are tried, in order. No
character stands for the empty text. -/
structure Schema where
  rules : Option Char → List Rule

namespace Schema

/-- The schema in which every scalar is a text. -/
def plain : Schema where
  rules _ := []

/-- Adds a rule for texts that start with certain characters, to be tried after all others. -/
def add (schema : Schema) (rule : Rule) (firsts : List (Option Char)) : Schema where
  rules first :=
    if firsts.contains first then schema.rules first ++ [rule] else schema.rules first

/-- Takes out the rules for a tag. -/
def without (schema : Schema) (tag : Tag) : Schema where
  rules first := (schema.rules first).filter fun rule => rule.tag ≠ tag

/-- What a scalar is from its text: what the first rule says that fits, and a text if none does. -/
def resolve (schema : Schema) (text : String) : Tag :=
  match (schema.rules text.toList.head?).find? fun rule => rule.fits text with
  | some rule => rule.tag
  | none => .text

/-- The digits, as first characters. -/
def digits : List (Option Char) :=
  ['0', '1', '2', '3', '4', '5', '6', '7', '8', '9'].map some

/-- The words for the truth values in all usual spellings. -/
def usualWords : List String :=
  ["yes", "Yes", "YES", "no", "No", "NO", "true", "True", "TRUE", "false", "False", "FALSE",
    "on", "On", "ON", "off", "Off", "OFF"]

/-- The words true and false. -/
def truthWords : List String := ["true", "True", "TRUE", "false", "False", "FALSE"]

/-- Truth values have many spellings. -/
def standard : Schema :=
  plain
    |>.add (.truth usualWords) (['y', 'Y', 'n', 'N', 't', 'T', 'f', 'F', 'o', 'O'].map some)
    |>.add .float (['-', '+', '.'].map some ++ digits)
    |>.add .int (['-', '+'].map some ++ digits)
    |>.add .merge [some '<']
    |>.add .null [some '~', some 'n', some 'N', none]
    |>.add .timestamp digits
    |>.add .value [some '=']
    |>.add .mark [some '!', some '&', some '*']

/-- Only the words true and false are truth values; on, off, yes and no are ordinary names. -/
def strict : Schema :=
  (standard.without .bool).add (.truth truthWords) (['t', 'T', 'f', 'F'].map some)

end Schema

end Transducer.Yaml

/-!
# Lines and words

A text read from a file has one kind of line end.
-/

namespace Transducer.Text

/-- The text with a carriage return, alone or before a line feed, read as a line feed. -/
def unifyBreaks : List Char → List Char
  | '\r' :: '\n' :: rest => '\n' :: unifyBreaks rest
  | '\r' :: rest => '\n' :: unifyBreaks rest
  | c :: rest => c :: unifyBreaks rest
  | [] => []

/-- The words of a text between the occurrences of a separator; their number is one more than that
of the separators. -/
def splitAt [DecidableEq α] (separator : α) : List α → List (List α)
  | [] => [[]]
  | c :: rest =>
    if c = separator then [] :: splitAt separator rest
    else
      match splitAt separator rest with
      | [] => [[c]]
      | word :: words => (c :: word) :: words

/-- The text with the letters of the ASCII alphabet in lower case. -/
def lower (text : String) : String := String.ofList (text.toList.map Char.toLower)

end Transducer.Text

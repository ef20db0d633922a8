/-!
Cutting a text at a separator, and into lines.
-/

namespace HstsPreload.Text

/-- The pieces between occurrences of `sep`; there is always at least one. -/
def splitAt (sep : Char) : List Char → List (List Char)
  | [] => [[]]
  | c :: rest =>
    if c = sep then [] :: splitAt sep rest
    else
      match splitAt sep rest with
      | [] => [[c]]
      | piece :: pieces => (c :: piece) :: pieces

/-- Joins pieces with `sep` between them; undoes `splitAt`. -/
def joinWith (sep : Char) : List (List Char) → List Char
  | [] => []
  | [piece] => piece
  | piece :: pieces => piece ++ sep :: joinWith sep pieces

/-- Cuts at the first occurrence of `sep`, if there is one. -/
def splitOnce (sep : Char) : List Char → Option (List Char × List Char)
  | [] => none
  | c :: rest =>
    if c = sep then some ([], rest)
    else (splitOnce sep rest).map fun (before, after) => (c :: before, after)

/-- Drops `c` from the end, once, if the text ends with it. -/
def stripEnd (c : Char) (cs : List Char) : List Char :=
  if cs.getLast? = some c then cs.dropLast else cs

/-- Ends each line, all but the last of which were followed by a line feed, as a reader of lines
wants them: without a carriage return before the line feed, and without an empty last line. -/
def closeLines : List (List Char) → List (List Char)
  | [] => []
  | [last] => if last = [] then [] else [last]
  | line :: more => stripEnd '\r' line :: closeLines more

/-- The lines of a text, without their ends. -/
def lines (cs : List Char) : List (List Char) :=
  closeLines (splitAt '\n' cs)

end HstsPreload.Text

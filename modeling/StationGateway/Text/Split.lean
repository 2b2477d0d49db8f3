/-!
# Splitting texts

A text at every place where a character stands, or at the first of them.
-/

namespace StationGateway.Text

/-- The part of a text before a character first stands in it, and the part after, if it does. -/
def splitFirst (separator : Char) (s : List Char) : List Char × Option (List Char) :=
  (s.takeWhile (· ≠ separator), (s.dropWhile (· ≠ separator)).tail?)

/-- The parts of a text between the places where a character stands. There is at least one part. -/
def split (separator : Char) : List Char → List (List Char)
  | [] => [[]]
  | c :: cs =>
    if c = separator then [] :: split separator cs
    else
      match split separator cs with
      | [] => [[c]]
      | part :: parts => (c :: part) :: parts

end StationGateway.Text

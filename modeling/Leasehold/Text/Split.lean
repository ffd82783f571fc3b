/-!
Cutting texts at a separator.
-/
namespace Leasehold.Text

/-- The parts of a text between separators. There is always one part more than separators. -/
def splitAt (separator : Char) : List Char → List (List Char)
  | [] => [[]]
  | c :: rest =>
    if c = separator then [] :: splitAt separator rest
    else
      match splitAt separator rest with
      | [] => [[c]]
      | part :: parts => (c :: part) :: parts

/-- A text has at least one part. -/
theorem splitAt_ne_nil (separator : Char) (text : List Char) : splitAt separator text ≠ [] := by
  cases text with
  | nil => simp [splitAt]
  | cons c rest =>
    unfold splitAt
    repeat' split
    all_goals simp

example : splitAt '.' "a..b".toList = ["a".toList, [], "b".toList] := by decide

end Leasehold.Text

/-!
Texts cut at a separating character. A text with `n` separators has `n + 1` pieces, which joined
by the separator give the text back.
-/

namespace GridMachine.Text

/-- The pieces between the separators, empty ones included. -/
def splitOn (separator : Char) : List Char → List (List Char)
  | [] => [[]]
  | c :: cs =>
      if c = separator then [] :: splitOn separator cs
      else
        match splitOn separator cs with
        | [] => [[c]]
        | piece :: pieces => (c :: piece) :: pieces

/-- What stands before and after the first separator, if there is one. -/
def splitFirst? (separator : Char) : List Char → Option (List Char × List Char)
  | [] => none
  | c :: cs =>
      if c = separator then some ([], cs)
      else (splitFirst? separator cs).map fun (before, after) => (c :: before, after)

/-- The texts in order, with the separator between neighbours. -/
def joinWith (separator : String) (texts : List String) : String :=
  .ofList (separator.toList.intercalate (texts.map String.toList))

theorem splitOn_ne_nil (separator : Char) (cs : List Char) : splitOn separator cs ≠ [] := by
  cases cs with
  | nil => simp [splitOn]
  | cons c cs =>
    unfold splitOn
    split
    · simp
    · split <;> simp

theorem splitOn_intercalate (separator : Char) (cs : List Char) :
    [separator].intercalate (splitOn separator cs) = cs := by
  induction cs with
  | nil => rfl
  | cons c cs ih =>
    unfold splitOn
    split
    next h =>
      subst h
      cases hs : splitOn c cs with
      | nil => exact absurd hs (splitOn_ne_nil c cs)
      | cons piece pieces => rw [hs] at ih; simpa [List.intercalate] using ih
    next h =>
      cases hs : splitOn separator cs with
      | nil => exact absurd hs (splitOn_ne_nil separator cs)
      | cons piece pieces =>
        rw [hs] at ih
        cases pieces with
        | nil => simpa [List.intercalate] using ih
        | cons p ps => simpa [List.intercalate] using ih

end GridMachine.Text

/-!
# Splitting and joining

A text is split at every occurrence of a separator. Joining the parts gives the text back:
`joinWith_splitAt`.
-/

namespace ElixirClient.Text

/-- The parts of a text between the occurrences of a separator; one more than there are of it. -/
def splitAt (separator : Char) : List Char → List (List Char)
  | [] => [[]]
  | c :: rest =>
    if c = separator then [] :: splitAt separator rest
    else match splitAt separator rest with
      | [] => [[c]]
      | part :: parts => (c :: part) :: parts

def joinWith (separator : Char) : List (List Char) → List Char
  | [] => []
  | [part] => part
  | part :: parts => part ++ separator :: joinWith separator parts

theorem splitAt_ne_nil (separator : Char) (cs : List Char) : splitAt separator cs ≠ [] := by
  cases cs with
  | nil => simp [splitAt]
  | cons c rest =>
    simp only [splitAt]
    split
    · simp
    · split <;> simp

theorem joinWith_splitAt (separator : Char) (cs : List Char) :
    joinWith separator (splitAt separator cs) = cs := by
  induction cs with
  | nil => rfl
  | cons c rest ih =>
    have hne := splitAt_ne_nil separator rest
    simp only [splitAt]
    cases h : splitAt separator rest with
    | nil => exact absurd h hne
    | cons part parts =>
      rw [h] at ih
      split
      · simp_all [joinWith]
      · cases parts <;> simp_all [joinWith]

end ElixirClient.Text

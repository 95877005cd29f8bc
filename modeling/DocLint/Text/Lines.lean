import DocLint.Text.Blank

/-!
# Lines of a text

Three ways to cut a text at its line breaks: keeping the line feeds, dropping them together with a
carriage return before them, and cutting at every line feed and carriage return while dropping the
blank pieces.
-/
namespace DocLint.Text

/-- Cut after every character that ends a line, which stays at the end of its piece. -/
def splitAfter (ends : Char → Bool) : List Char → List (List Char)
  | [] => []
  | c :: rest =>
    if ends c then [c] :: splitAfter ends rest
    else
      match splitAfter ends rest with
      | [] => [[c]]
      | piece :: pieces => (c :: piece) :: pieces

/-- Cut at every separator, which belongs to no piece; there is always one piece more than
separators. -/
def splitOn (separates : Char → Bool) : List Char → List (List Char)
  | [] => [[]]
  | c :: rest =>
    if separates c then [] :: splitOn separates rest
    else
      match splitOn separates rest with
      | [] => [[c]]
      | piece :: pieces => (c :: piece) :: pieces

/-- Remove a line feed at the end, and a carriage return before it. -/
def chomp (line : List Char) : List Char :=
  match line.reverse with
  | '\n' :: '\r' :: rest => rest.reverse
  | '\n' :: rest => rest.reverse
  | _ => line

/-- The lines of a text, without their line breaks.  A break at the very end starts no line. -/
def lines (s : List Char) : List (List Char) :=
  (splitAfter (· == '\n') s).map chomp

/-- The pieces between line feeds and carriage returns that are not blank. -/
def nonBlankLines (s : List Char) : List (List Char) :=
  (splitOn (fun c => c == '\r' || c == '\n') s).filter fun line => !isBlankText line

def joinWith (separator : List Char) (pieces : List (List Char)) : List Char :=
  (pieces.intersperse separator).flatten

/-- Cutting loses nothing. -/
theorem flatten_splitAfter (ends : Char → Bool) (s : List Char) :
    (splitAfter ends s).flatten = s := by
  induction s with
  | nil => rfl
  | cons c s ih =>
    unfold splitAfter
    split
    · simp [ih]
    · split
      · rename_i h
        simp [h] at ih
        simp [← ih]
      · rename_i h
        simp [h] at ih
        simp [← ih]

theorem splitOn_ne_nil (separates : Char → Bool) (s : List Char) : splitOn separates s ≠ [] := by
  cases s with
  | nil => simp [splitOn]
  | cons c s =>
    unfold splitOn
    split
    · simp
    · split <;> simp

end DocLint.Text

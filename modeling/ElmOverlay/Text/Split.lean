/-!
Texts cut at separators. There is always one piece more than there are separators, so pieces
may be empty.
-/
namespace ElmOverlay

def splitOn (isSeparator : Char → Bool) : List Char → List (List Char)
  | [] => [[]]
  | c :: cs =>
    let pieces := splitOn isSeparator cs
    if isSeparator c then [] :: pieces else (c :: pieces.headD []) :: pieces.tail

theorem length_splitOn (isSeparator : Char → Bool) (cs : List Char) :
    (splitOn isSeparator cs).length = cs.countP isSeparator + 1 := by
  induction cs with
  | nil => rfl
  | cons c cs ih => by_cases h : isSeparator c <;> simp [splitOn, h, ih]

theorem splitOn_ne_nil (isSeparator : Char → Bool) (cs : List Char) :
    splitOn isSeparator cs ≠ [] := by
  apply List.ne_nil_of_length_pos
  rw [length_splitOn]
  omega

end ElmOverlay

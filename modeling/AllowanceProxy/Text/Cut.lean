/-! Texts cut at marks. -/
namespace AllowanceProxy.Text

/-- A text up to a mark, and what follows the mark if it is there. -/
def cutAt (mark : Char) (s : List Char) : List Char × Option (List Char) :=
  let front := s.takeWhile (· ≠ mark)
  match s.drop front.length with
  | [] => (front, none)
  | _ :: back => (front, some back)

/-- A text split at the last mark, if there is one. -/
def cutAtLast? (mark : Char) (s : List Char) : Option (List Char × List Char) :=
  match cutAt mark s.reverse with
  | (_, none) => none
  | (back, some front) => some (front.reverse, back.reverse)

/-- What stands between marks; without any it is the text itself. -/
def pieces (isCut : Char → Bool) : List Char → List (List Char)
  | [] => [[]]
  | c :: cs =>
    if isCut c then [] :: pieces isCut cs
    else
      match pieces isCut cs with
      | [] => [[c]]
      | p :: ps => (c :: p) :: ps

end AllowanceProxy.Text

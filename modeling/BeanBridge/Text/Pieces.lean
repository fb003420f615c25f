/-! Texts cut into pieces. -/

namespace BeanBridge.Text

/-- The pieces between the characters at which `isCut` holds: one more than there are cuts. -/
def pieces (isCut : Char → Bool) : List Char → List (List Char)
  | [] => [[]]
  | c :: text =>
    match pieces isCut text with
    | piece :: others => if isCut c then [] :: piece :: others else (c :: piece) :: others
    | [] => [[c]]

/-- The text before the first `c`, and the text behind it if there is a `c`. -/
def cutAt (c : Char) (text : List Char) : List Char × Option (List Char) :=
  match text.dropWhile (· != c) with
  | [] => (text, none)
  | _ :: rest => (text.takeWhile (· != c), some rest)

end BeanBridge.Text

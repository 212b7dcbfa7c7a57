/-! # Texts between marks -/

namespace ReverseProxy.Parts

/-- The texts between the marks, one more than there are marks. -/
def split (mark : Char) : List Char → List (List Char)
  | [] => [[]]
  | c :: rest =>
    if c = mark then [] :: split mark rest
    else
      match split mark rest with
      | [] => [[c]]
      | first :: others => (c :: first) :: others

end ReverseProxy.Parts

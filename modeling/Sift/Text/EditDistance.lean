namespace Sift

/-- Given the distances of a text from every suffix of another one, the longest first, the same
distances of the text with one character put in front. -/
def distancesCons (c : Char) : List Char → List Nat → List Nat
  | d :: other, distance :: shorter :: shortest =>
    let rest := distancesCons c other (shorter :: shortest)
    (if c = d then shorter else 1 + min distance (min shorter (rest.headD 0))) :: rest
  | _, [distance] => [distance + 1]
  | _, distances => distances

def distances (other : List Char) : List Char → List Nat
  | [] => (List.range (other.length + 1)).reverse
  | c :: text => distancesCons c other (distances other text)

/-- The distance of two texts, counted in characters. -/
def editDistance (text other : List Char) : Nat := (distances other text).headD 0

end Sift

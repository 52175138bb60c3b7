/-
# Similar words

Two words are alike in so far as they have the same characters at about the same places.  The
measure counts the characters that both have within a window, relative to either length, and how
few of them stand in another order.
-/

namespace RecordRegistry.Similarity

/-- Finds a character among those that are not used yet, within a window of places. The result
says which characters are used afterwards. -/
def claim (character : Char) (low high : Nat) :
    Nat → List (Char × Bool) → Option (List (Char × Bool))
  | _, [] => none
  | place, (other, used) :: rest =>
    if low ≤ place && place < high && other = character && !used then some ((other, true) :: rest)
    else (claim character low high (place + 1) rest).map fun rest => (other, used) :: rest

/-- Claims each character of a word in turn. The result is the characters that were found, in the
order of the word, and which characters are used. -/
def claimAll (window : Nat) :
    Nat → List Char → List (Char × Bool) → List Char × List (Char × Bool)
  | _, [], others => ([], others)
  | place, character :: rest, others =>
    match claim character (place - window) (place + window + 1) 0 others with
    | some others =>
      let (found, others) := claimAll window (place + 1) rest others
      (character :: found, others)
    | none => claimAll window (place + 1) rest others

/-- How much two words are alike, from zero to one. -/
def degree (first second : List Char) : Float :=
  if first = [] && second = [] then 1
  else
    let window := max first.length second.length / 2 - 1
    let (found, others) := claimAll window 0 first (second.map fun character => (character, false))
    let used := (others.filter Prod.snd).map Prod.fst
    let moved := ((found.zip used).filter fun pair => pair.1 ≠ pair.2).length / 2
    if found = [] then 0
    else
      let shared := Float.ofNat found.length
      (shared / Float.ofNat first.length + shared / Float.ofNat second.length +
        Float.ofNat (found.length - moved) / shared) / 3

/-- The degree that similar words exceed. -/
def threshold : Float := 0.7

/-- Adds a word to words ordered by their degree, behind those of the same degree. -/
def insert (word : Float × String) : List (Float × String) → List (Float × String)
  | [] => [word]
  | other :: rest => if other.1 > word.1 then word :: other :: rest else other :: insert word rest

/-- The candidates that are similar to a word, the most similar one last. -/
def similar (word : String) (candidates : List String) : List String :=
  let rated := candidates.map fun candidate =>
    (degree word.toList candidate.toList, candidate)
  ((rated.filter fun candidate => candidate.1 > threshold).foldl
    (fun ordered candidate => insert candidate ordered) []).map Prod.snd

end RecordRegistry.Similarity

/-!
# Suggestions for misspelt words

Two words are similar if enough of their characters match.  Characters are
matched in runs: the longest run that the words share is taken first, then those
on its left and on its right in the same way.
-/

namespace StackScript
namespace CommandLine

/-- A run of characters that two words share: where it starts in either word,
and its length. -/
structure Run where
  first : Nat
  second : Nat
  length : Nat
deriving DecidableEq, Repr

def commonStart : List Char → List Char → Nat
  | left :: lefts, right :: rights =>
    if left = right then commonStart lefts rights + 1 else 0
  | _, _ => 0

/-- The longest run that two words share.  Of several, it is the first in the
first word, and of these the first in the second word. -/
def longestRun (left right : List Char) : Run :=
  let starts := (List.range left.length).flatMap fun first =>
    (List.range right.length).map fun second => (first, second)
  starts.foldl (fun best (first, second) =>
    let length := commonStart (left.drop first) (right.drop second)
    if best.length < length then ⟨first, second, length⟩ else best) ⟨0, 0, 0⟩

/-- How many characters of two words match.  The number of rounds bounds the
search; one for every character of the first word is enough, because every round
takes some of them. -/
def matchedWithin : (rounds : Nat) → List Char → List Char → Nat
  | 0, _, _ => 0
  | rounds + 1, left, right =>
    let run := longestRun left right
    if run.length = 0 then 0
    else
      matchedWithin rounds (left.take run.first) (right.take run.second) +
        run.length +
        matchedWithin rounds (left.drop (run.first + run.length))
          (right.drop (run.second + run.length))

structure Candidate where
  word : String
  matched : Nat
  /-- How many characters it has, together with the word that was given. -/
  total : Nat

namespace Candidate

def of (given word : String) : Candidate :=
  { word := word
    matched := matchedWithin word.length word.toList given.toList
    total := word.length + given.length }

/-- Whether the words are similar: three fifths of all their characters match. -/
def isSimilar (candidate : Candidate) : Bool :=
  3 * candidate.total ≤ 10 * candidate.matched

/-- Whether the first candidate comes before the second.  A greater part of it
matches; if the parts are equal, it is later in the alphabet. -/
def before (first second : Candidate) : Bool :=
  let left := first.matched * second.total
  let right := second.matched * first.total
  right < left || right == left && second.word ≤ first.word

end Candidate

def suggestionLimit : Nat := 3

/-- The words that are most similar to the one that was given, in alphabetical
order. -/
def suggestions (given : String) (words : List String) : List String :=
  let similar := (words.map (Candidate.of given)).filter Candidate.isSimilar
  let best := (similar.mergeSort Candidate.before).take suggestionLimit
  (best.map Candidate.word).mergeSort fun first second => first ≤ second

end CommandLine
end StackScript

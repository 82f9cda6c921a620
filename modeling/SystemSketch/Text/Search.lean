/-!
# Searching and cutting text

Recognisers read from the front of a text and give back what is left. The functions of this
module are the ones all of them share.

## Main definitions

* `after?` — the text after a given word at its front.
* `indexOf?`, `occursIn` — the first place of a word in a text.
* `splitOn` — the pieces of a text between the occurrences of a character.
* `splitLast?` — the two sides of the last occurrence of a character.
-/

namespace SystemSketch.Text

/-- What follows `word` at the front of a text, if the text begins with `word`. -/
def after? : List Char → List Char → Option (List Char)
  | [], text => some text
  | _ :: _, [] => none
  | w :: word, c :: text => if w == c then after? word text else none

/-- What stands before `word` at the end of a text, if the text ends with `word`. -/
def before? (word text : List Char) : Option (List Char) :=
  (after? word.reverse text.reverse).map List.reverse

/-- The least number of characters before an occurrence of `word`. -/
def indexOf? (word : List Char) : List Char → Option Nat
  | [] => if word.isEmpty then some 0 else none
  | c :: text =>
    if (after? word (c :: text)).isSome then some 0 else (indexOf? word text).map (· + 1)

/-- Whether `word` occurs anywhere in the text. -/
def occursIn (word text : List Char) : Bool :=
  (indexOf? word text).isSome

/-- The pieces of a text between the occurrences of `mark`; there is always at least one. -/
def splitOn (mark : Char) : List Char → List (List Char)
  | [] => [[]]
  | c :: text =>
    if c == mark then [] :: splitOn mark text
    else
      match splitOn mark text with
      | [] => [[c]]
      | piece :: rest => (c :: piece) :: rest

/-- The text before and after the last occurrence of `mark`. -/
def splitLast? (mark : Char) : List Char → Option (List Char × List Char)
  | [] => none
  | c :: text =>
    match splitLast? mark text with
    | some (before, after) => some (c :: before, after)
    | none => if c == mark then some ([], text) else none

end SystemSketch.Text

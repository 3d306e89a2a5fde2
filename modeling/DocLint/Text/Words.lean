import DocLint.Text.Blank
/-!
# Blanks and words

Cutting blanks off a text, splitting it into words, and finding one text inside
another. Positions count characters.
-/

namespace DocLint.Text

/-- The text without the blanks at its front. -/
def dropBlanks (cs : List Char) : List Char := cs.dropWhile isBlank

/-- The text without the blanks at either end. -/
def stripChars (cs : List Char) : List Char := (dropBlanks (dropBlanks cs).reverse).reverse

/-- The text without the blanks at either end. -/
def strip (s : String) : String := String.ofList (stripChars s.toList)

/-- The words of a text, the characters of the first in `word`. -/
def wordsFrom (word : List Char) : List Char → List (List Char)
  | [] => if word.isEmpty then [] else [word.reverse]
  | c :: rest =>
    if isBlank c then
      if word.isEmpty then wordsFrom [] rest else word.reverse :: wordsFrom [] rest
    else wordsFrom (c :: word) rest

/-- The text with its words parted by single spaces and no other blanks. -/
def normalizeBlanks (s : String) : String :=
  " ".intercalate ((wordsFrom [] s.toList).map String.ofList)

/-- Where `needle` occurs first, if it does; `position` is that of the first
character. -/
def findFrom (needle : List Char) (position : Nat) : List Char → Option Nat
  | [] => if needle.isEmpty then some position else none
  | c :: rest =>
    if needle.isPrefixOf (c :: rest) then some position else findFrom needle (position + 1) rest

/-- The position of the first occurrence of `needle`. -/
def find? (needle haystack : String) : Option Nat := findFrom needle.toList 0 haystack.toList

/-- The pieces of a text between the characters `c`; the pieces may be empty. -/
def splitAt (c : Char) : List Char → List (List Char)
  | [] => [[]]
  | d :: rest =>
    if d = c then [] :: splitAt c rest
    else
      match splitAt c rest with
      | [] => [[d]]
      | piece :: pieces => (d :: piece) :: pieces

/-- The text before the first `c`, and the text behind it if there is one. -/
def cutAt (c : Char) : List Char → List Char × Option (List Char)
  | [] => ([], none)
  | d :: rest =>
    if d = c then ([], some rest)
    else
      let (before, behind) := cutAt c rest
      (d :: before, behind)

/-- A set of texts: ascending, and each one once. -/
def setOf (texts : List String) : List String :=
  let ascending := texts.mergeSort fun a b => !(b < a)
  ascending.foldr (fun text rest => if rest.head? = some text then rest else text :: rest) []

/-- The first line of a text. -/
def firstLine (s : String) : String := String.ofList (s.toList.takeWhile (· != '\n'))

/-- The part of a text from one position to another; a position is cut at the
ends, and a negative one counts from the end. -/
def slice (s : String) (first last : Int) : String :=
  let cs := s.toList
  let place : Int → Nat := fun i => if i < 0 then (cs.length + i).toNat else min i.toNat cs.length
  String.ofList ((cs.take (place last)).drop (place first))

end DocLint.Text

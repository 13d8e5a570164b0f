/-!
# Splitting and joining

Texts that hold several values separate them by single characters: origins and subscriptions by
commas, the type of a funnel step from its value by a colon.

* `splitBy p` cuts at every character of the class `p`; there is always at least one piece.
* `splitOnce c` cuts at the first `c` only, and fails when there is none.
* `join` puts a separator between pieces.
* `occurs p` looks for `p` anywhere in a list.
* `stripAll p` removes a leading `p` as often as it occurs.
-/

namespace Footfall.Text

/-- The pieces between the characters of the class `p`; one more piece than there are cuts. -/
def splitBy (p : Char → Bool) : List Char → List (List Char)
  | [] => [[]]
  | c :: r =>
    if p c then [] :: splitBy p r
    else
      match splitBy p r with
      | [] => [[c]]
      | w :: ws => (c :: w) :: ws

/-- The pieces of a text between the occurrences of one character. -/
def split (sep : Char) (s : String) : List String :=
  (splitBy (· == sep) s.toList).map String.ofList

/-- What stands before and after the first occurrence of a character. -/
def splitOnce (sep : Char) : List Char → Option (List Char × List Char)
  | [] => none
  | c :: r => if c = sep then some ([], r) else (splitOnce sep r).map fun (a, b) => (c :: a, b)

/-- The part of a text before the first character of the class `p`. -/
def before (p : Char → Bool) (cs : List Char) : List Char := cs.takeWhile fun c => !p c

/-- The pieces with a separator between them. -/
def join (sep : String) : List String → String
  | [] => ""
  | [s] => s
  | s :: t :: r => s ++ sep ++ join sep (t :: r)

/-- The rest of a list after a leading `p`, if it starts with `p`. -/
def strip? (p : List Char) (cs : List Char) : Option (List Char) :=
  match p, cs with
  | [], cs => some cs
  | _ :: _, [] => none
  | a :: p, c :: cs => if a = c then strip? p cs else none

/-- Does `p` occur somewhere in a list? -/
def occurs (p : List Char) : List Char → Bool
  | [] => (strip? p []).isSome
  | c :: r => (strip? p (c :: r)).isSome || occurs p r

/-- A list without leading copies of `p`, looked for at most `fuel` times. -/
def stripTimes (p : List Char) : Nat → List Char → List Char
  | 0, cs => cs
  | fuel + 1, cs =>
    match strip? p cs with
    | some rest => stripTimes p fuel rest
    | none => cs

/-- A list without its leading copies of `p`. A list has no more copies of a non-empty `p` than
it has characters. -/
def stripAll (p : List Char) (cs : List Char) : List Char := stripTimes p cs.length cs

end Footfall.Text

/-!
# Labels of host names in ASCII

A label of a host name with other characters than ASCII is encoded by its ASCII characters, a
hyphen, and the positions and distances of the others as numbers of variable length.

* `encode` gives the encoded form, without the mark that such labels start with.
* `decode` gives the characters back, or nothing when the form is malformed.
-/

namespace Footfall.Net.Punycode

/-- The digit of a value below 36. -/
def digit (n : Nat) : Char := Char.ofNat (if n < 26 then 97 + n else 22 + n)

/-- The value of a digit. -/
def digitOf (c : Char) : Option Nat :=
  if 'a' ≤ c ∧ c ≤ 'z' then some (c.toNat - 97)
  else if 'A' ≤ c ∧ c ≤ 'Z' then some (c.toNat - 65)
  else if '0' ≤ c ∧ c ≤ '9' then some (c.toNat - 22)
  else none

/-- The threshold of a position for a bias. -/
def threshold (k bias : Nat) : Nat := if k ≤ bias then 1 else if bias + 26 ≤ k then 26 else k - bias

/-- Divide by 35 until the value is small, counting positions. -/
def damp (delta k : Nat) : Nat → Nat
  | 0 => k
  | fuel + 1 =>
    if 455 < delta then damp (delta / 35) (k + 36) fuel else k + 36 * delta / (delta + 38)

/-- The bias after a distance. -/
def adapt (delta points : Nat) (first : Bool) : Nat :=
  let delta := if first then delta / 700 else delta / 2
  damp (delta + delta / points) 0 64

/-- The digits of a number of variable length. -/
def number (q k bias : Nat) : Nat → List Char
  | 0 => []
  | fuel + 1 =>
    let t := threshold k bias
    if q < t then [digit q]
    else digit (t + (q - t) % (36 - t)) :: number ((q - t) / (36 - t)) (k + 36) bias fuel

/-- The state of encoding: the distance, the bias, the characters handled, and the output in
reverse order of its pieces. -/
structure Progress where
  delta : Nat
  bias : Nat
  handled : Nat
  out : List Char

/-- Pass one character of the label while the character `n` is being placed. -/
def place (basic n : Nat) (p : Progress) (c : Char) : Progress :=
  if c.toNat < n then { p with delta := p.delta + 1 }
  else if c.toNat = n then
    { delta := 0
      bias := adapt p.delta (p.handled + 1) (p.handled == basic)
      handled := p.handled + 1
      out := p.out ++ number p.delta 36 p.bias 64 }
  else p

/-- Place the characters from `n` on, at most `fuel` different ones. -/
def placeAll (label : List Char) (basic n : Nat) (p : Progress) : Nat → Progress
  | 0 => p
  | fuel + 1 =>
    match (label.filter fun c => n ≤ c.toNat).map Char.toNat with
    | [] => p
    | c :: r =>
      let next := r.foldl min c
      let p := { p with delta := p.delta + (next - n) * (p.handled + 1) }
      let p := label.foldl (place basic next) p
      placeAll label basic (next + 1) { p with delta := p.delta + 1 } fuel

/-- The encoded form of a label. -/
def encode (label : List Char) : List Char :=
  let basic := label.filter fun c => c.toNat < 128
  let start := if basic.isEmpty then [] else basic ++ ['-']
  (placeAll label basic.length 128 ⟨0, 72, basic.length, start⟩ label.length).out

/-- Read a number of variable length: its value and the rest. -/
def readNumber (i w k bias : Nat) : List Char → Option (Nat × List Char)
  | [] => none
  | c :: r =>
    match digitOf c with
    | none => none
    | some d =>
      let t := threshold k bias
      let i := i + d * w
      if d < t then some (i, r) else readNumber i (w * (36 - t)) (k + 36) bias r

/-- Insert the characters that the digits describe. -/
def decodeFrom (out : List Char) (n i bias : Nat) (first : Bool) : Nat → List Char →
    Option (List Char)
  | _, [] => some out
  | 0, _ :: _ => none
  | fuel + 1, cs =>
    match readNumber i 1 36 bias cs with
    | none => none
    | some (j, rest) =>
      let count := out.length + 1
      let n := n + j / count
      let place := j % count
      if n < 0xD800 ∨ (0xDFFF < n ∧ n < 0x110000) then
        decodeFrom (out.take place ++ Char.ofNat n :: out.drop place) n (place + 1)
          (adapt (j - i) count first) false fuel rest
      else none

/-- The label that an encoded form stands for. -/
def decode (cs : List Char) : Option (List Char) :=
  let tail := (cs.reverse.takeWhile (· != '-')).reverse
  let basic := (cs.take (cs.length - tail.length)).dropLast
  if tail.isEmpty || basic.any (fun c => 128 ≤ c.toNat) then none
  else decodeFrom basic 128 0 72 true cs.length tail

end Footfall.Net.Punycode

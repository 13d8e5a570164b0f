import Footfall.Mail.Address

/-!
# Mailboxes

A mailbox is an address, with or without the name of its owner. It is written as an address, or as
a name and an address in angle brackets. An address is a local part, an at sign and a domain; both
parts are words with single points between them, and a local part may also be quoted. A name is a
row of words, quoted texts and points. Spaces may stand before every part and around the whole;
line breaks may not.

Every reader takes what it reads from the start of a text and returns the rest. None of them goes
back over what it has read: a word is read as far as it goes.

* `readPointed` reads words with points between them.
* `readQuoted` reads the contents of a quoted text and its closing quote, which leaves less than
  there was (`length_lt_of_readQuoted`); so does a word or a point of a name
  (`length_lt_of_readNamePart`).
* `readMailbox` reads a whole text as the name, the local part and the domain of a mailbox.
* `parseMailbox` is the mailbox that a text writes, when its parts can also be written to.
-/

namespace Footfall.Mail

/-- An address with the name of its owner. -/
structure Mailbox where
  name : Option String
  address : Address
  deriving DecidableEq, Repr

/-! ## Characters -/

/-- A character of a written word. What is not ASCII is looked at later. -/
def isAtomChar (c : Char) : Bool := c.isAlphanum || isWordSign c || 128 ≤ c.toNat

/-- The control characters of ASCII other than the null, the tabulator, the line feed and the
carriage return. -/
def isControl (c : Char) : Bool :=
  let n := c.toNat
  (1 ≤ n && n ≤ 8) || n == 11 || n == 12 || (14 ≤ n && n ≤ 31) || n == 127

/-- A character that stands for itself between quotes. -/
def isQuotable (c : Char) : Bool :=
  isControl c || 128 ≤ c.toNat || (isVisible c && c != '"' && c != '\\')

/-- A character that a backslash may protect between quotes. -/
def isProtectable (c : Char) : Bool := isControl c || isVisible c || isSpace c

/-! ## Words and quoted texts -/

/-- A text without its leading spaces. -/
def skipSpace (cs : List Char) : List Char := cs.dropWhile isSpace

/-- The rest of words with points between them. A point belongs to them only when a word
follows it. -/
def readPointedRest : List Char → List Char × List Char
  | [] => ([], [])
  | c :: r =>
    if isAtomChar c || (c == '.' && r.head?.any isAtomChar) then
      let (words, rest) := readPointedRest r
      (c :: words, rest)
    else ([], c :: r)

/-- Words with single points between them, after spaces. -/
def readPointed (cs : List Char) : Option (List Char × List Char) :=
  let cs := skipSpace cs
  if cs.head?.any isAtomChar then some (readPointedRest cs) else none

/-- The contents of a quoted text, and what follows its closing quote. Of several spaces in a row
the first is kept, which waits in `pending`; spaces before the closing quote are dropped. -/
def readQuoted (pending : List Char) : List Char → Option (List Char × List Char)
  | [] => none
  | '"' :: r => some ([], r)
  | '\\' :: c :: r =>
    if isProtectable c then (readQuoted [] r).map fun (text, rest) => (pending ++ c :: text, rest)
    else none
  | c :: r =>
    if isSpace c then readQuoted (if pending.isEmpty then [c] else pending) r
    else if isQuotable c then
      (readQuoted [] r).map fun (text, rest) => (pending ++ c :: text, rest)
    else none

theorem length_lt_of_readQuoted {pending cs text rest : List Char}
    (h : readQuoted pending cs = some (text, rest)) : rest.length < cs.length := by
  fun_induction readQuoted pending cs generalizing text rest with
  | case1 => simp at h
  | case2 r =>
    simp only [Option.some.injEq, Prod.mk.injEq] at h
    simp [← h.2]
  | case3 _ _ r _ ih =>
    obtain ⟨⟨_, _⟩, hp, hr⟩ := Option.map_eq_some_iff.1 h
    simp only [Prod.mk.injEq] at hr
    have := ih hp
    simp only [List.length_cons, ← hr.2]
    omega
  | case4 => simp at h
  | case5 _ _ r _ _ _ ih =>
    have := ih h
    simp only [List.length_cons]
    omega
  | case6 _ _ r _ _ _ _ ih =>
    obtain ⟨⟨_, _⟩, hp, hr⟩ := Option.map_eq_some_iff.1 h
    simp only [Prod.mk.injEq] at hr
    have := ih hp
    simp only [List.length_cons, ← hr.2]
    omega
  | case7 => simp at h

/-! ## Names -/

/-- A word of a name: a quoted text, or a word after spaces, of which the first is kept. -/
def readWord : List Char → Option (List Char × List Char)
  | '"' :: r => readQuoted [] r
  | cs =>
    match skipSpace cs with
    | c :: r =>
      if isAtomChar c then
        some ((cs.takeWhile isSpace).take 1 ++ c :: r.takeWhile isAtomChar, r.dropWhile isAtomChar)
      else none
    | [] => none

theorem length_lt_of_readWord {cs word rest : List Char} (h : readWord cs = some (word, rest)) :
    rest.length < cs.length := by
  unfold readWord at h
  split at h
  · have := length_lt_of_readQuoted h
    simp only [List.length_cons]
    omega
  · split at h
    · next c r hr =>
      split at h
      · simp only [Option.some.injEq, Prod.mk.injEq] at h
        have h₁ := (List.dropWhile_suffix (l := cs) isSpace).length_le
        have h₂ := (List.dropWhile_suffix (l := r) isAtomChar).length_le
        simp only [skipSpace] at hr
        rw [hr, List.length_cons] at h₁
        rw [← h.2]
        omega
      · simp at h
    · simp at h

/-- What may continue a name: a word or a point. -/
def readNamePart (cs : List Char) : Option (List Char × List Char) :=
  match readWord cs, cs with
  | some found, _ => some found
  | none, '.' :: r => some (['.'], r)
  | none, _ => none

theorem length_lt_of_readNamePart {cs part rest : List Char}
    (h : readNamePart cs = some (part, rest)) : rest.length < cs.length := by
  unfold readNamePart at h
  split at h
  · next hw =>
    rw [h] at hw
    exact length_lt_of_readWord hw
  · simp only [Option.some.injEq, Prod.mk.injEq] at h
    simp [← h.2]
  · simp at h

/-- The words and points that continue a name. -/
def readNameRest (cs : List Char) : List Char × List Char :=
  match h : readNamePart cs with
  | some (part, rest) =>
    have := length_lt_of_readNamePart h
    let (name, rest) := readNameRest rest
    (part ++ name, rest)
  | none => ([], cs)
termination_by cs.length

/-- A name, which starts with a word. -/
def readName (cs : List Char) : Option (List Char × List Char) := do
  let (word, rest) ← readWord cs
  let (name, rest) := readNameRest rest
  some (word ++ name, rest)

/-! ## Addresses and mailboxes -/

/-- A local part: words with points between them, or a quoted text. -/
def readLocalPart (cs : List Char) : Option (List Char × List Char) :=
  match readPointed cs, cs with
  | some found, _ => some found
  | none, '"' :: r => readQuoted [] r
  | none, _ => none

/-- The two parts of an address. -/
def readAddress (cs : List Char) : Option ((List Char × List Char) × List Char) := do
  let (user, rest) ← readLocalPart cs
  let (domain, rest) ← readPointed (← Text.strip? ['@'] rest)
  some ((user, domain), rest)

/-- An address in angle brackets, after spaces. -/
def readAngled (cs : List Char) : Option ((List Char × List Char) × List Char) := do
  let (parts, rest) ← readAddress (← Text.strip? ['<'] (skipSpace cs))
  some (parts, ← Text.strip? ['>'] rest)

/-- The name before an address in angle brackets, and the address. The name may be missing. -/
def readNamed (cs : List Char) :
    Option ((Option (List Char) × List Char × List Char) × List Char) :=
  match readName cs with
  | some (name, rest) => (readAngled rest).map fun (parts, rest) => ((some name, parts), rest)
  | none => (readAngled cs).map fun (parts, rest) => ((none, parts), rest)

/-- The name, the local part and the domain that a whole text writes. -/
def readMailbox (cs : List Char) : Option (Option (List Char) × List Char × List Char) := do
  let cs := skipSpace cs
  let (found, rest) ←
    readNamed cs <|> (readAddress cs).map fun (parts, rest) => ((none, parts), rest)
  if (skipSpace rest).isEmpty then some found else none

/-- The mailbox that a text writes. -/
def parseMailbox (s : String) : Except AddressError Mailbox :=
  match readMailbox s.toList with
  | none => .error .malformed
  | some (name, user, domain) =>
    (Address.ofParts user domain).map fun address => ⟨name.map String.ofList, address⟩

end Footfall.Mail

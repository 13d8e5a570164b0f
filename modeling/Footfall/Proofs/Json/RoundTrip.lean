import Mathlib.Algebra.Ring.Int.Defs
import Mathlib.Data.List.Basic
import Mathlib.Data.String.Basic
import Footfall.Json.Reader
import Footfall.Json.Writer

/-!
# Writing and reading JSON

The compact text of a value is written in one part of the service and read back in another. What is
read is the value that was written, if it is one that is kept exactly (`Value.Exact`): its numbers
are whole numbers of 64 bits, its fields are sorted, each name once, and it is not nested too deep.

* The reader of strings takes the escape of a character for that character (`stringBody_escaped`).
* The reader of numbers finds the digits of an integer, up to what follows it in a container or at
  the end of the text (`Closes`), and their value fits 64 bits (`Numeral.value_ofInt`).
* The readers of items and fields go on at every separator (`items_more`, `fields_more`). Fields
  arrive in order, so each of them is put behind those before it (`insertField_of_lt`).

`readsBack_of_exact` is by induction on the value, with two units of fuel for each character of its
text, and `parse_compactText` says so of whole texts.
-/

namespace Footfall.Json

/-! ## Strings -/

theorem hexValue_digitChar {d : ℕ} (h : d < 16) : Text.hexValue (Nat.digitChar d) = some d := by
  revert d
  decide

theorem stringBody_plain {c : Char} (hquote : c ≠ '"') (hbackslash : c ≠ '\\')
    (hcontrol : ¬c.toNat < 32) (seen rest : List Char) :
    stringBody .plain seen (c :: rest) = stringBody .plain (c :: seen) rest := by
  simp [stringBody, StringState.step, hquote, hbackslash, hcontrol]

theorem completeUnit_control {c : Char} (h : c.toNat < 32) :
    completeUnit c.toNat none = some (.plain, [c]) := by
  rw [completeUnit, if_neg (by omega), if_neg (by omega), Char.ofNat_toNat]

/-- The code of a control character is read as that character. -/
theorem stringBody_control {c : Char} (h : c.toNat < 32) (seen rest : List Char) :
    stringBody .plain seen
        ('\\' :: 'u' :: '0' :: '0' ::
          Nat.digitChar (c.toNat / 16) :: Nat.digitChar (c.toNat % 16) :: rest) =
      stringBody .plain (c :: seen) rest := by
  have hzero : Text.hexValue '0' = some 0 := hexValue_digitChar (by decide : 0 < 16)
  have hhigh : Text.hexValue (Nat.digitChar (c.toNat / 16)) = some (c.toNat / 16) :=
    hexValue_digitChar (by omega)
  have hlow : Text.hexValue (Nat.digitChar (c.toNat % 16)) = some (c.toNat % 16) :=
    hexValue_digitChar (Nat.mod_lt _ (by decide))
  have hvalue : c.toNat / 16 * 16 + c.toNat % 16 = c.toNat := Nat.div_add_mod' _ _
  simp [stringBody, StringState.step, StringState.isPlain, hzero, hhigh, hlow, hvalue,
    completeUnit_control h]

theorem stringBody_escaped (c : Char) (seen rest : List Char) :
    stringBody .plain seen (escaped c ++ rest) = stringBody .plain (c :: seen) rest := by
  fun_cases escaped c
  case case8 hquote hbackslash _ _ _ _ _ hcontrol => exact stringBody_control hcontrol seen rest
  case case9 hquote hbackslash _ _ _ _ _ hcontrol =>
    exact stringBody_plain hquote hbackslash hcontrol seen rest
  all_goals rfl

/-- **A written string is read back**, up to its closing quote. -/
theorem stringBody_flatMap_escaped (cs seen rest : List Char) :
    stringBody .plain seen (cs.flatMap escaped ++ '"' :: rest) =
      some (seen.reverse ++ cs, rest) := by
  induction cs generalizing seen with
  | nil => simp [stringBody, StringState.isPlain]
  | cons c cs ih =>
    rw [List.flatMap_cons, List.append_assoc, stringBody_escaped, ih, List.reverse_cons,
      List.append_assoc, List.singleton_append]

theorem string_quotedString (s : String) (rest : List Char) :
    string (quotedString s ++ rest) = some (s, rest) := by
  rw [quotedString, List.cons_append, List.cons_append, List.append_assoc]
  change (stringBody .plain [] (s.toList.flatMap escaped ++ '"' :: rest)).map _ = _
  rw [stringBody_flatMap_escaped]
  simp

/-! ## Numbers -/

/-- The rest of a text ends a value: there is nothing left, or a separator or the end of a container
follows. -/
def Closes (rest : List Char) : Prop :=
  rest = [] ∨ ∃ r, rest = ',' :: r ∨ rest = ']' :: r ∨ rest = '\x7d' :: r

namespace Numeral

/-- The digit that a character writes. -/
def digitOf (c : Char) : ℕ := c.toNat - 48

theorem digitValue_eq_some {c : Char} (h : c.isDigit = true) :
    Text.digitValue c = some (digitOf c) := by
  rw [Char.isDigit, Bool.and_eq_true, decide_eq_true_eq, decide_eq_true_eq] at h
  exact if_pos h

theorem scanDigits_of_closes {rest : List Char} (h : Closes rest) :
    scanDigits rest = ([], rest) := by
  obtain rfl | ⟨r, rfl | rfl | rfl⟩ := h <;> rfl

theorem scanDigits_append {cs rest : List Char} (hcs : ∀ c ∈ cs, c.isDigit = true)
    (hrest : Closes rest) : scanDigits (cs ++ rest) = (cs.map digitOf, rest) := by
  induction cs with
  | nil => exact scanDigits_of_closes hrest
  | cons c cs ih =>
    obtain ⟨hc, hcs⟩ := List.forall_mem_cons.1 hcs
    simp [scanDigits, digitValue_eq_some hc, ih hcs]

theorem digitsValue_map_digitOf (cs : List Char) :
    digitsValue (cs.map digitOf) = Nat.ofDigitChars 10 cs 0 := by
  simp only [digitsValue, List.foldl_map, Nat.ofDigitChars_eq_foldl, mul_comm, digitOf]
  rfl

/-- The digits of a number. -/
def digitsOf (n : ℕ) : List ℕ := (Nat.toDigits 10 n).map digitOf

theorem digitsValue_digitsOf (n : ℕ) : digitsValue (digitsOf n) = n := by
  rw [digitsOf, digitsValue_map_digitOf, Nat.ofDigitChars_ten_toDigits]

theorem digitsOf_ne_nil (n : ℕ) : digitsOf n ≠ [] := by
  simp [digitsOf]

theorem digitsOf_of_lt {n : ℕ} (h : n < 10) : digitsOf n = [n] := by
  rw [digitsOf, Nat.toDigits_of_lt_base h, List.map_singleton, digitOf,
    Nat.toNat_digitChar_sub_48_of_lt_ten h]

theorem digitsOf_append {m k : ℕ} (hm : 0 < m) (hk : k < 10) :
    digitsOf (10 * m + k) = digitsOf m ++ [k] := by
  rw [← digitsOf_of_lt hk, digitsOf, ← Nat.toDigits_append_toDigits (by decide) hm hk,
    List.map_append]
  rfl

/-- Only zero is written with a zero in front. -/
theorem eq_zero_of_head?_digitsOf {n : ℕ} (h : (digitsOf n).head? = some 0) : n = 0 := by
  induction n using Nat.base_induction 10 (by decide) with
  | single m hm => simpa [digitsOf_of_lt hm] using h
  | digit m k hk hm ih =>
    rw [digitsOf_append hm hk, List.head?_append_of_ne_nil _ (digitsOf_ne_nil m)] at h
    exact absurd (ih h) hm.ne'

theorem isDigit_of_mem_toDigits {n : ℕ} : ∀ c ∈ Nat.toDigits 10 n, c.isDigit = true :=
  fun _ hc => Nat.isDigit_of_mem_toDigits (by decide) (by decide) hc

theorem exists_toDigits_cons (n : ℕ) :
    ∃ c r, Nat.toDigits 10 n = c :: r ∧ c.isDigit = true := by
  obtain ⟨c, r, hc⟩ := List.exists_cons_of_ne_nil (Nat.toDigits_ne_nil (n := n) (b := 10))
  exact ⟨c, r, hc, isDigit_of_mem_toDigits c (hc ▸ List.mem_cons_self)⟩

theorem scanWhole_toDigits (n : ℕ) {rest : List Char} (h : Closes rest) :
    scanWhole (Nat.toDigits 10 n ++ rest) = some (digitsOf n, rest) := by
  rw [scanWhole, scanDigits_append isDigit_of_mem_toDigits h, ← digitsOf]
  match hds : digitsOf n with
  | [] => exact absurd hds (digitsOf_ne_nil n)
  | [0] => rfl
  | (d + 1) :: ds => rfl
  | 0 :: d :: ds =>
    have hzero : n = 0 := eq_zero_of_head?_digitsOf (by rw [hds]; rfl)
    rw [hzero, digitsOf_of_lt (by decide)] at hds
    cases hds

theorem scanFraction_of_closes {rest : List Char} (h : Closes rest) :
    scanFraction rest = some (none, rest) := by
  obtain rfl | ⟨r, rfl | rfl | rfl⟩ := h <;> rfl

theorem scanExponent_of_closes {rest : List Char} (h : Closes rest) :
    scanExponent rest = some (none, rest) := by
  obtain rfl | ⟨r, rfl | rfl | rfl⟩ := h <;> rfl

/-- The written form of an integer. -/
def ofInt (n : ℤ) : Numeral := ⟨decide (n < 0), digitsOf n.natAbs, none, none⟩

theorem scanSign_toDigits (n : ℕ) (rest : List Char) :
    scanSign (Nat.toDigits 10 n ++ rest) = (false, Nat.toDigits 10 n ++ rest) := by
  obtain ⟨c, r, hc, hdigit⟩ := exists_toDigits_cons n
  have hne : c ≠ '-' := by
    rintro rfl
    cases hdigit
  rw [hc, List.cons_append, scanSign]
  simpa using hne

theorem scan_integerText (n : ℤ) {rest : List Char} (h : Closes rest) :
    scan (integerText n ++ rest) = some (ofInt n, rest) := by
  have hscan : scanSign (integerText n ++ rest) =
      (decide (n < 0), Nat.toDigits 10 n.natAbs ++ rest) := by
    rw [integerText]
    split_ifs with hneg
    · simp [scanSign, hneg]
    · rw [scanSign_toDigits, decide_eq_false hneg]
  simp [scan, hscan, scanWhole_toDigits n.natAbs h, scanFraction_of_closes h,
    scanExponent_of_closes h, ofInt]

theorem value_ofInt {n : ℤ} (hmin : -2 ^ 63 ≤ n) (hmax : n < 2 ^ 64) :
    (ofInt n).value = some (.int n) := by
  have hlow : Nat.pow 2 63 = 9223372036854775808 := rfl
  have hhigh : maxSignificand = 18446744073709551615 := rfl
  simp only [value, ofInt, digitsValue_digitsOf, hlow, hhigh, decide_eq_true_eq]
  split_ifs with hneg hfits hfits
  · congr 2
    omega
  · omega
  · congr 2
    omega
  · omega

end Numeral

/-! ## Where a value begins -/

theorem skipSpace_cons {c : Char} (h : isSpace c = false) (r : List Char) :
    skipSpace (c :: r) = c :: r := by
  rw [skipSpace, List.dropWhile_cons_of_neg (by simp [h])]

/-- Does a number start with the character? -/
def startsNumber (c : Char) : Bool := c = '-' || c.isDigit

theorem ne_of_startsNumber {c d : Char} (hc : startsNumber c = true) (hd : startsNumber d = false) :
    c ≠ d := by
  rintro rfl
  rw [hc] at hd
  cases hd

theorem isSpace_of_startsNumber {c : Char} (h : startsNumber c = true) : isSpace c = false := by
  simp [isSpace, ne_of_startsNumber h (d := ' ') rfl, ne_of_startsNumber h (d := '\n') rfl,
    ne_of_startsNumber h (d := '\t') rfl, ne_of_startsNumber h (d := '\r') rfl]

theorem exists_integerText_cons (n : ℤ) :
    ∃ c r, integerText n = c :: r ∧ startsNumber c = true := by
  rw [integerText]
  split_ifs
  · exact ⟨'-', _, rfl, rfl⟩
  · obtain ⟨c, r, hc, hdigit⟩ := Numeral.exists_toDigits_cons n.natAbs
    exact ⟨c, r, hc, by simp [startsNumber, hdigit]⟩

/-- What starts like a number is read as one. -/
theorem value_number {c : Char} (h : startsNumber c = true) (depth fuel : ℕ) (r : List Char) :
    value depth (fuel + 1) (c :: r) = (do
      let (n, r) ← Numeral.scan (c :: r)
      let v ← n.value
      return (v, r)) := by
  simp only [value, skipSpace_cons (isSpace_of_startsNumber h)]
  split
  case h_1 heq => cases heq
  case h_8 heq =>
    obtain ⟨rfl, rfl⟩ := List.cons.inj heq
    rfl
  all_goals
    next heq => exact absurd (List.cons.inj heq).1 (ne_of_startsNumber h rfl)

/-! ## Values -/

/-- A value that is kept exactly: its numbers are whole numbers of 64 bits, its fields are in
ascending order of their names, each name once, and it is nested at most `depth` containers deep. -/
inductive Value.Exact : ℕ → Value → Prop
  | null {depth} : Exact depth .null
  | bool {depth b} : Exact depth (.bool b)
  | int {depth n} (hmin : -2 ^ 63 ≤ n) (hmax : n < 2 ^ 64) : Exact depth (.int n)
  | string {depth s} : Exact depth (.string s)
  | array {depth items} (hitems : ∀ v ∈ items, Exact depth v) : Exact (depth + 1) (.array items)
  | object {depth fields} (hnames : fields.Pairwise fun f g => f.1 < g.1)
      (hfields : ∀ f ∈ fields, Exact depth f.2) : Exact (depth + 1) (.object fields)

theorem Value.Exact.mono {depth depth' : ℕ} {v : Value} (h : v.Exact depth) (hle : depth ≤ depth') :
    v.Exact depth' := by
  induction h generalizing depth' with
  | null => exact .null
  | bool => exact .bool
  | int hmin hmax => exact .int hmin hmax
  | string => exact .string
  | array _ ih =>
    obtain ⟨k, rfl⟩ := Nat.exists_eq_add_of_le' (Nat.one_le_of_lt hle)
    exact .array fun v hv => ih v hv (Nat.le_of_succ_le_succ hle)
  | object hnames _ ih =>
    obtain ⟨k, rfl⟩ := Nat.exists_eq_add_of_le' (Nat.one_le_of_lt hle)
    exact .object hnames fun f hf => ih f hf (Nat.le_of_succ_le_succ hle)

/-- The text of a value starts with a character of its own, which tells null from other values. -/
theorem exists_compact_cons {depth : ℕ} {v : Value} (h : v.Exact depth) :
    ∃ c r, compact v = c :: r ∧ isSpace c = false ∧ c ≠ ']' ∧ (v ≠ .null → c ≠ 'n') := by
  cases h with
  | null => exact ⟨_, _, rfl, rfl, by decide, fun hne => absurd rfl hne⟩
  | @bool _ b => cases b <;> exact ⟨_, _, rfl, rfl, by decide, fun _ => by decide⟩
  | @int _ n =>
    obtain ⟨c, r, hc, hstart⟩ := exists_integerText_cons n
    exact ⟨c, r, hc, isSpace_of_startsNumber hstart, ne_of_startsNumber hstart rfl,
      fun _ => ne_of_startsNumber hstart rfl⟩
  | string => exact ⟨_, _, rfl, rfl, by decide, fun _ => by decide⟩
  | array => exact ⟨_, _, rfl, rfl, by decide, fun _ => by decide⟩
  | object => exact ⟨_, _, rfl, rfl, by decide, fun _ => by decide⟩

section Steps

variable {depth fuel : ℕ} {v : Value} {vs : List Value} {name : String}
  {seen fs : List (String × Value)} {cs r rest : List Char}

theorem items_last (hv : value depth fuel cs = some (v, ']' :: rest)) :
    items depth (fuel + 1) cs = some ([v], rest) := by
  rw [items, hv]
  rfl

theorem items_more (hv : value depth fuel cs = some (v, ',' :: r))
    (hvs : items depth fuel r = some (vs, rest)) :
    items depth (fuel + 1) cs = some (v :: vs, rest) := by
  rw [items, hv]
  change (items depth fuel r).bind _ = _
  rw [hvs]
  rfl

theorem fields_last (hv : value depth fuel cs = some (v, '\x7d' :: rest)) :
    fields depth (fuel + 1) seen (quotedString name ++ ':' :: cs) =
      some (insertField name v seen, rest) := by
  have hname : string (skipSpace (quotedString name ++ ':' :: cs)) = some (name, ':' :: cs) :=
    string_quotedString name _
  rw [fields, hname]
  change (value depth fuel cs).bind _ = _
  rw [hv]
  rfl

theorem fields_more (hv : value depth fuel cs = some (v, ',' :: r)) :
    fields depth (fuel + 1) seen (quotedString name ++ ':' :: cs) =
      fields depth fuel (insertField name v seen) r := by
  have hname : string (skipSpace (quotedString name ++ ':' :: cs)) = some (name, ':' :: cs) :=
    string_quotedString name _
  rw [fields, hname]
  change (value depth fuel cs).bind _ = _
  rw [hv]
  rfl

theorem value_array {c : Char} (hspace : isSpace c = false) (hclose : c ≠ ']')
    (hvs : items depth fuel (c :: r) = some (vs, rest)) :
    value (depth + 1) (fuel + 1) ('[' :: c :: r) = some (.array vs, rest) := by
  have hopen : skipSpace ('[' :: c :: r) = '[' :: c :: r := skipSpace_cons rfl _
  simp only [value, hopen, skipSpace_cons hspace]
  split
  · next heq => exact absurd (List.cons.inj heq).1 hclose
  · rw [hvs]
    rfl

theorem value_object (hfs : fields depth fuel [] ('"' :: r) = some (fs, rest)) :
    value (depth + 1) (fuel + 1) ('\x7b' :: '"' :: r) = some (.object fs, rest) := by
  change (fields depth fuel [] ('"' :: r)).map _ = _
  rw [hfs]
  rfl

end Steps

/-- The text of a value is read back, with enough fuel and whatever may follow it. -/
def ReadsBack (depth : ℕ) (v : Value) : Prop :=
  ∀ fuel rest, 2 * (compact v).length ≤ fuel → Closes rest →
    value depth fuel (compact v ++ rest) = some (v, rest)

section Containers

variable {depth fuel : ℕ}

theorem items_compactItems {vs : List Value} (hne : vs ≠ []) (hvs : ∀ v ∈ vs, ReadsBack depth v)
    (hfuel : 2 * (compactItems vs).length ≤ fuel) (rest : List Char) :
    items depth fuel (compactItems vs ++ rest) = some (vs, rest) := by
  induction vs generalizing fuel with
  | nil => exact absurd rfl hne
  | cons v vs ih =>
    obtain ⟨hv, hvs⟩ := List.forall_mem_cons.1 hvs
    cases vs with
    | nil =>
      simp only [compactItems, List.length_append, List.length_singleton] at hfuel
      obtain ⟨fuel, rfl⟩ := Nat.exists_eq_add_one.2 (by omega : 0 < fuel)
      have hread := hv fuel (']' :: rest) (by omega) (.inr ⟨rest, by simp⟩)
      rw [compactItems, List.append_assoc]
      exact items_last hread
    | cons w r =>
      simp only [compactItems, List.length_append, List.length_cons] at hfuel
      obtain ⟨fuel, rfl⟩ := Nat.exists_eq_add_one.2 (by omega : 0 < fuel)
      have hread := hv fuel (',' :: (compactItems (w :: r) ++ rest)) (by omega)
        (.inr ⟨_, .inl rfl⟩)
      have hrest : items depth fuel (compactItems (w :: r) ++ rest) = some (w :: r, rest) :=
        ih (by simp) hvs (by omega)
      rw [compactItems, List.append_assoc]
      exact items_more hread hrest

/-- A field behind all others is put behind them. -/
theorem insertField_of_lt {α : Type} {name : String} {a : α} {seen : List (String × α)}
    (h : ∀ f ∈ seen, f.1 < name) : insertField name a seen = seen ++ [(name, a)] := by
  induction seen with
  | nil => rfl
  | cons f seen ih =>
    obtain ⟨hf, hseen⟩ := List.forall_mem_cons.1 h
    rw [insertField, if_neg hf.ne', if_neg hf.not_gt, ih hseen, List.cons_append]

theorem fields_compactFields {seen fs : List (String × Value)} (hne : fs ≠ [])
    (hnames : (seen ++ fs).Pairwise fun f g => f.1 < g.1) (hfs : ∀ f ∈ fs, ReadsBack depth f.2)
    (hfuel : 2 * (compactFields fs).length ≤ fuel) (rest : List Char) :
    fields depth fuel seen (compactFields fs ++ rest) = some (seen ++ fs, rest) := by
  induction fs generalizing fuel seen with
  | nil => exact absurd rfl hne
  | cons f fs ih =>
    obtain ⟨name, v⟩ := f
    obtain ⟨hv, hfs⟩ : ReadsBack depth v ∧ ∀ f ∈ fs, ReadsBack depth f.2 :=
      List.forall_mem_cons.1 hfs
    have hinsert : insertField name v seen = seen ++ [(name, v)] :=
      insertField_of_lt fun g hg => (List.pairwise_append.1 hnames).2.2 g hg _ List.mem_cons_self
    cases fs with
    | nil =>
      simp only [compactFields, List.length_append, List.length_cons] at hfuel
      obtain ⟨fuel, rfl⟩ := Nat.exists_eq_add_one.2 (by omega : 0 < fuel)
      have hread := hv fuel ('\x7d' :: rest) (by omega) (.inr ⟨rest, by simp⟩)
      rw [← hinsert, compactFields, List.append_assoc, List.append_assoc]
      exact fields_last hread
    | cons g r =>
      simp only [compactFields, List.length_append, List.length_cons] at hfuel
      obtain ⟨fuel, rfl⟩ := Nat.exists_eq_add_one.2 (by omega : 0 < fuel)
      have hread := hv fuel (',' :: (compactFields (g :: r) ++ rest)) (by omega)
        (.inr ⟨_, .inl rfl⟩)
      rw [List.append_cons] at hnames
      have hrest : fields depth fuel (seen ++ [(name, v)]) (compactFields (g :: r) ++ rest) = _ :=
        ih (by simp) hnames hfs (by omega)
      rw [List.append_cons, ← hrest, ← hinsert, compactFields, List.append_assoc, List.append_assoc]
      exact fields_more hread

end Containers

theorem exists_fuel {cs : List Char} {fuel : ℕ} (hcs : cs ≠ []) (hfuel : 2 * cs.length ≤ fuel) :
    ∃ k, fuel = k + 1 := by
  have hpos := List.length_pos_iff.2 hcs
  exact Nat.exists_eq_add_one.2 (by omega)

theorem readsBack_int {depth : ℕ} {n : ℤ} (hmin : -2 ^ 63 ≤ n) (hmax : n < 2 ^ 64) :
    ReadsBack depth (.int n) := by
  intro fuel rest hfuel hrest
  obtain ⟨c, r, hc, hstart⟩ := exists_integerText_cons n
  have hscan := Numeral.scan_integerText n hrest
  rw [compact, hc] at hfuel
  obtain ⟨fuel, rfl⟩ := exists_fuel (List.cons_ne_nil _ _) hfuel
  rw [hc] at hscan
  rw [compact, hc, List.cons_append, value_number hstart, ← List.cons_append, hscan]
  change (Numeral.value _).bind _ = _
  rw [Numeral.value_ofInt hmin hmax]
  rfl

theorem readsBack_string {depth : ℕ} (s : String) : ReadsBack depth (.string s) := by
  intro fuel rest hfuel _
  obtain ⟨fuel, rfl⟩ := exists_fuel (List.cons_ne_nil _ _) hfuel
  rw [compact, quotedString, List.cons_append, List.cons_append, List.append_assoc]
  change (stringBody .plain [] (s.toList.flatMap escaped ++ '"' :: rest)).map _ = _
  rw [stringBody_flatMap_escaped]
  simp

theorem readsBack_array {depth : ℕ} {items : List Value} (hexact : ∀ v ∈ items, v.Exact depth)
    (hitems : ∀ v ∈ items, ReadsBack depth v) : ReadsBack (depth + 1) (.array items) := by
  intro fuel rest hfuel _
  rw [compact, List.length_cons] at hfuel
  obtain ⟨fuel, rfl⟩ := Nat.exists_eq_add_one.2 (by omega : 0 < fuel)
  cases items with
  | nil => rfl
  | cons v vs =>
    obtain ⟨c, r, hc, hspace, hclose, -⟩ := exists_compact_cons (hexact v List.mem_cons_self)
    obtain ⟨r', hr'⟩ : ∃ r', compactItems (v :: vs) = c :: r' := by
      cases vs <;> exact ⟨_, by rw [compactItems, hc]; rfl⟩
    have hread : Json.items depth fuel (compactItems (v :: vs) ++ rest) = some (v :: vs, rest) :=
      items_compactItems (by simp) hitems (by omega) rest
    rw [hr', List.cons_append] at hread
    rw [compact, hr', List.cons_append, List.cons_append]
    exact value_array hspace hclose hread

theorem readsBack_object {depth : ℕ} {fields : List (String × Value)}
    (hnames : fields.Pairwise fun f g => f.1 < g.1) (hfields : ∀ f ∈ fields, ReadsBack depth f.2) :
    ReadsBack (depth + 1) (.object fields) := by
  intro fuel rest hfuel _
  rw [compact, List.length_cons] at hfuel
  obtain ⟨fuel, rfl⟩ := Nat.exists_eq_add_one.2 (by omega : 0 < fuel)
  cases fields with
  | nil => rfl
  | cons f fs =>
    obtain ⟨r, hr⟩ : ∃ r, compactFields (f :: fs) = '"' :: r := by
      cases fs <;> exact ⟨_, by rw [compactFields, quotedString]; rfl⟩
    have hread : Json.fields depth fuel [] (compactFields (f :: fs) ++ rest) =
        some (f :: fs, rest) :=
      fields_compactFields (by simp) hnames hfields (by omega) rest
    rw [hr, List.cons_append] at hread
    rw [compact, hr, List.cons_append, List.cons_append]
    exact value_object hread

/-- **The text of every exact value is read back.** -/
theorem readsBack_of_exact {depth : ℕ} {v : Value} (h : v.Exact depth) : ReadsBack depth v := by
  induction h with
  | null =>
    intro fuel rest hfuel _
    obtain ⟨fuel, rfl⟩ := exists_fuel (List.cons_ne_nil _ _) hfuel
    rfl
  | @bool _ b =>
    intro fuel rest hfuel _
    cases b <;>
    · obtain ⟨fuel, rfl⟩ := exists_fuel (List.cons_ne_nil _ _) hfuel
      rfl
  | int hmin hmax => exact readsBack_int hmin hmax
  | string => exact readsBack_string _
  | array hitems ih => exact readsBack_array hitems ih
  | object hnames hfields ih => exact readsBack_object hnames ih

/-- **Writing and parsing** an exact value gives it back. -/
theorem parse_compactText {v : Value} (h : v.Exact maxDepth) : parse (compactText v) = some v := by
  have hread := readsBack_of_exact h (fuelFor (compact v)) [] (by rw [fuelFor]; omega) (.inl rfl)
  rw [List.append_nil] at hread
  rw [parse, compactText, String.toList_ofList, hread]
  rfl

end Footfall.Json

import LedgerLight.Infra.Digits
import Mathlib.Algebra.Ring.Int.Defs

/-!
# JSON texts

Values as `JSON.stringify` writes them, without spaces, and as `JSON.parse` reads them. A text is read
in UTF-16, since an escape is half of a surrogate pair; a half that is alone is read as the replacement
character. A number is the decimal that is written.

* `parse_stringify` : a value is read back as it was written.
-/

namespace Infra

/-- `mantissa * 10 ^ exponent`. -/
structure Decimal where
  mantissa : Int
  exponent : Int := 0
deriving DecidableEq, Repr

inductive Json where
  | null
  | bool (b : Bool)
  | num (n : Decimal)
  | str (text : List Char)
  | arr (items : List Json)
  | obj (members : List (List Char × Json))

namespace Decimal

/-- The number, if it is a whole one. -/
def toInt? (n : Decimal) : Option Int :=
  if 0 ≤ n.exponent then some (n.mantissa * 10 ^ n.exponent.toNat)
  else if n.mantissa % 10 ^ (-n.exponent).toNat = 0 then
    some (n.mantissa / 10 ^ (-n.exponent).toNat)
  else none

theorem toInt?_intCast (n : Int) : toInt? { mantissa := n } = some n :=
  congrArg some (Int.mul_one n)

end Decimal

namespace Json

open Digits

/-! ## Writing -/

def integer (n : Int) : List Char :=
  if n < 0 then '-' :: Nat.toDigits 10 n.natAbs else Nat.toDigits 10 n.natAbs

def number (n : Decimal) : List Char :=
  integer n.mantissa ++ if n.exponent = 0 then [] else 'e' :: integer n.exponent

def hex4 (n : Nat) : List Char :=
  [Nat.digitChar (n / 4096 % 16), Nat.digitChar (n / 256 % 16), Nat.digitChar (n / 16 % 16),
    Nat.digitChar (n % 16)]

def escape (c : Char) : List Char :=
  if c = '"' then ['\\', '"']
  else if c = '\\' then ['\\', '\\']
  else if c = '\x08' then ['\\', 'b']
  else if c = '\x0c' then ['\\', 'f']
  else if c = '\n' then ['\\', 'n']
  else if c = '\r' then ['\\', 'r']
  else if c = '\t' then ['\\', 't']
  else if c.toNat < 0x20 then '\\' :: 'u' :: hex4 c.toNat
  else [c]

/-- A text behind its first quotation mark. -/
def quoted (text : List Char) : List Char := text.flatMap escape ++ ['"']

mutual

def stringify : Json → List Char
  | .null => ['n', 'u', 'l', 'l']
  | .bool true => ['t', 'r', 'u', 'e']
  | .bool false => ['f', 'a', 'l', 's', 'e']
  | .num n => number n
  | .str text => '"' :: quoted text
  | .arr [] => ['[', ']']
  | .arr (x :: xs) => '[' :: (stringify x ++ moreItems xs)
  | .obj [] => ['\x7b', '\x7d']
  | .obj ((key, x) :: members) =>
    '\x7b' :: '"' :: (quoted key ++ ':' :: (stringify x ++ moreMembers members))

/-- What follows an item. -/
def moreItems : List Json → List Char
  | [] => [']']
  | x :: xs => ',' :: (stringify x ++ moreItems xs)

/-- What follows a member. -/
def moreMembers : List (List Char × Json) → List Char
  | [] => ['\x7d']
  | (key, x) :: members =>
    ',' :: '"' :: (quoted key ++ ':' :: (stringify x ++ moreMembers members))

end

/-! ## Reading texts -/

def toUtf16 (c : Char) : List Nat :=
  if c.toNat < 0x10000 then [c.toNat]
  else [0xD800 + (c.toNat - 0x10000) / 1024, 0xDC00 + (c.toNat - 0x10000) % 1024]

def ofUtf16 : List Nat → List Char
  | [] => []
  | [u] => [if 0xD800 ≤ u ∧ u ≤ 0xDFFF then Char.ofNat 0xFFFD else Char.ofNat u]
  | u :: v :: units =>
    if 0xD800 ≤ u ∧ u ≤ 0xDBFF ∧ 0xDC00 ≤ v ∧ v ≤ 0xDFFF then
      Char.ofNat (0x10000 + (u - 0xD800) * 1024 + (v - 0xDC00)) :: ofUtf16 units
    else if 0xD800 ≤ u ∧ u ≤ 0xDFFF then Char.ofNat 0xFFFD :: ofUtf16 (v :: units)
    else Char.ofNat u :: ofUtf16 (v :: units)

def hexValue? (c : Char) : Option Nat :=
  let n := c.toNat
  if 0x30 ≤ n ∧ n ≤ 0x39 then some (n - 0x30)
  else if 0x61 ≤ n ∧ n ≤ 0x66 then some (n - 0x61 + 10)
  else if 0x41 ≤ n ∧ n ≤ 0x46 then some (n - 0x41 + 10)
  else none

/-- The character of a short escape. -/
def escaped? (c : Char) : Option Nat :=
  if c = '"' ∨ c = '\\' ∨ c = '/' then some c.toNat
  else if c = 'b' then some 8
  else if c = 'f' then some 12
  else if c = 'n' then some 10
  else if c = 'r' then some 13
  else if c = 't' then some 9
  else none

/-- The units in front. -/
def push (units : List Nat) (r : Option (List Nat × List Char)) : Option (List Nat × List Char) :=
  r.map fun x => (units ++ x.1, x.2)

/-- Where a text is read: between characters, behind a backslash, or in the digits of an escape. -/
inductive Reading where
  | plain
  | escape
  | hex (missing unit : Nat)

/-- The units up to the quotation mark that ends the text. -/
def units : Reading → List Char → Option (List Nat × List Char)
  | _, [] => none
  | .plain, c :: cs =>
    if c = '"' then some ([], cs)
    else if c = '\\' then units .escape cs
    else if c.toNat < 0x20 then none
    else push (toUtf16 c) (units .plain cs)
  | .escape, c :: cs =>
    if c = 'u' then units (.hex 3 0) cs
    else
      match escaped? c with
      | some u => push [u] (units .plain cs)
      | none => none
  | .hex missing unit, c :: cs =>
    match hexValue? c with
    | none => none
    | some v =>
      if missing = 0 then push [unit * 16 + v] (units .plain cs)
      else units (.hex (missing - 1) (unit * 16 + v)) cs

def text (cs : List Char) : Option (List Char × List Char) :=
  (units .plain cs).map fun x => (ofUtf16 x.1, x.2)

/-! ## Reading numbers -/

def fraction (cs : List Char) : Option (List Char × List Char) :=
  if cs.head? = some '.' then
    if (digits cs.tail).1 = [] then none else some (digits cs.tail)
  else some ([], cs)

/-- The digits behind the sign of an exponent. -/
def exponentDigits (sign : Int) (cs : List Char) : Option (Int × List Char) :=
  if (digits cs).1 = [] then none
  else some (sign * Nat.ofDigitChars 10 (digits cs).1 0, (digits cs).2)

def exponent (cs : List Char) : Option (Int × List Char) :=
  if cs.head? = some 'e' ∨ cs.head? = some 'E' then
    if cs.tail.head? = some '-' then exponentDigits (-1) cs.tail.tail
    else if cs.tail.head? = some '+' then exponentDigits 1 cs.tail.tail
    else exponentDigits 1 cs.tail
  else some (0, cs)

/-- A number behind its sign; its first digit is 0 only if it has no other. -/
def unsigned (sign : Int) (cs : List Char) : Option (Decimal × List Char) :=
  let whole := (digits cs).1
  if whole = [] ∨ whole.head? = some '0' ∧ whole.length ≠ 1 then none
  else do
    let (parts, cs) ← fraction (digits cs).2
    let (e, cs) ← exponent cs
    pure ({ mantissa := sign * Nat.ofDigitChars 10 (whole ++ parts) 0
            exponent := e - parts.length }, cs)

def decimal (cs : List Char) : Option (Decimal × List Char) :=
  if cs.head? = some '-' then unsigned (-1) cs.tail else unsigned 1 cs

/-! ## Reading values -/

def isSpace (c : Char) : Bool := c == ' ' || c == '\t' || c == '\n' || c == '\r'

def skipSpace (cs : List Char) : List Char := cs.dropWhile isSpace

/-- The text begins with the word. -/
def keyword (word : List Char) (j : Json) (cs : List Char) : Option (Json × List Char) :=
  if word <+: cs then some (j, cs.drop word.length) else none

mutual

def value : Nat → List Char → Option (Json × List Char)
  | 0, _ => none
  | fuel + 1, cs =>
    match skipSpace cs with
    | [] => none
    | c :: cs =>
      if c = '"' then (text cs).map fun x => (.str x.1, x.2)
      else if c = '[' then
        if (skipSpace cs).head? = some ']' then some (.arr [], (skipSpace cs).tail)
        else do
          let (x, cs) ← value fuel cs
          let (xs, cs) ← items fuel cs
          pure (.arr (x :: xs), cs)
      else if c = '\x7b' then
        if (skipSpace cs).head? = some '\x7d' then some (.obj [], (skipSpace cs).tail)
        else do
          let (m, cs) ← member fuel cs
          let (ms, cs) ← members fuel cs
          pure (.obj (m :: ms), cs)
      else if c = 'n' then keyword ['n', 'u', 'l', 'l'] .null (c :: cs)
      else if c = 't' then keyword ['t', 'r', 'u', 'e'] (.bool true) (c :: cs)
      else if c = 'f' then keyword ['f', 'a', 'l', 's', 'e'] (.bool false) (c :: cs)
      else (decimal (c :: cs)).map fun x => (.num x.1, x.2)

/-- The items behind one. -/
def items : Nat → List Char → Option (List Json × List Char)
  | 0, _ => none
  | fuel + 1, cs =>
    match skipSpace cs with
    | [] => none
    | c :: cs =>
      if c = ']' then some ([], cs)
      else if c = ',' then do
        let (x, cs) ← value fuel cs
        let (xs, cs) ← items fuel cs
        pure (x :: xs, cs)
      else none

def member : Nat → List Char → Option ((List Char × Json) × List Char)
  | 0, _ => none
  | fuel + 1, cs =>
    match skipSpace cs with
    | [] => none
    | c :: cs =>
      if c = '"' then do
        let (key, cs) ← text cs
        match skipSpace cs with
        | [] => none
        | c :: cs =>
          if c = ':' then do
            let (x, cs) ← value fuel cs
            pure ((key, x), cs)
          else none
      else none

/-- The members behind one. -/
def members : Nat → List Char → Option (List (List Char × Json) × List Char)
  | 0, _ => none
  | fuel + 1, cs =>
    match skipSpace cs with
    | [] => none
    | c :: cs =>
      if c = '\x7d' then some ([], cs)
      else if c = ',' then do
        let (m, cs) ← member fuel cs
        let (ms, cs) ← members fuel cs
        pure (m :: ms, cs)
      else none

end

/-- Every call reads a character at least. -/
def parse (cs : List Char) : Option Json :=
  match value (cs.length + 1) cs with
  | some (j, rest) => if skipSpace rest = [] then some j else none
  | none => none

/-- The member of a value; of two with one key the last. -/
def member? (key : String) : Json → Option Json
  | .obj members => members.reverse.lookup key.toList
  | _ => none

/-! ## Texts are read back -/

section

variable {c : Char} {cs rest : List Char}

theorem hexValue?_digitChar {n : Nat} (h : n < 16) : hexValue? (Nat.digitChar n) = some n := by
  have hall : ∀ m ∈ List.range 16, hexValue? (Nat.digitChar m) = some m := by decide
  exact hall n (List.mem_range.mpr h)

theorem units_plain_cons :
    units .plain (c :: cs) =
      if c = '"' then some ([], cs)
      else if c = '\\' then units .escape cs
      else if c.toNat < 0x20 then none
      else push (toUtf16 c) (units .plain cs) := rfl

theorem units_escape_cons :
    units .escape (c :: cs) =
      if c = 'u' then units (.hex 3 0) cs
      else
        match escaped? c with
        | some u => push [u] (units .plain cs)
        | none => none := rfl

theorem units_hex_cons {missing unit : Nat} :
    units (.hex missing unit) (c :: cs) =
      match hexValue? c with
      | none => none
      | some v =>
        if missing = 0 then push [unit * 16 + v] (units .plain cs)
        else units (.hex (missing - 1) (unit * 16 + v)) cs := rfl

theorem units_hex {missing unit n : Nat} (h : n < 16) :
    units (.hex missing unit) (Nat.digitChar n :: cs) =
      if missing = 0 then push [unit * 16 + n] (units .plain cs)
      else units (.hex (missing - 1) (unit * 16 + n)) cs := by
  rw [units_hex_cons, hexValue?_digitChar h]

theorem units_backslash : units .plain ('\\' :: cs) = units .escape cs := by
  rw [units_plain_cons, if_neg (by decide), if_pos rfl]

theorem units_hex4 {n : Nat} (h : n < 65536) :
    units .plain ('\\' :: 'u' :: (hex4 n ++ cs)) = push [n] (units .plain cs) := by
  have hunit : (((0 * 16 + n / 4096 % 16) * 16 + n / 256 % 16) * 16 + n / 16 % 16) * 16 + n % 16 =
      n := by omega
  rw [units_backslash, units_escape_cons, if_pos rfl]
  unfold hex4
  simp only [List.cons_append, List.nil_append]
  rw [units_hex (Nat.mod_lt _ (by decide)), if_neg (by decide),
    units_hex (Nat.mod_lt _ (by decide)), if_neg (by decide),
    units_hex (Nat.mod_lt _ (by decide)), if_neg (by decide),
    units_hex (Nat.mod_lt _ (by decide)), if_pos rfl, hunit]

theorem units_short {e : Char} {u : Nat} (he : e ≠ 'u') (hu : escaped? e = some u) :
    units .plain ('\\' :: e :: cs) = push [u] (units .plain cs) := by
  rw [units_backslash, units_escape_cons, if_neg he, hu]

theorem toUtf16_of_lt (h : c.toNat < 0x10000) : toUtf16 c = [c.toNat] := if_pos h

/-- An escaped character is read as the character. -/
theorem units_escape :
    units .plain (escape c ++ cs) = push (toUtf16 c) (units .plain cs) := by
  unfold escape
  split
  · next h =>
    subst h
    exact units_short (by decide) rfl
  split
  · next h =>
    subst h
    exact units_short (by decide) rfl
  split
  · next h =>
    subst h
    exact units_short (by decide) rfl
  split
  · next h =>
    subst h
    exact units_short (by decide) rfl
  split
  · next h =>
    subst h
    exact units_short (by decide) rfl
  split
  · next h =>
    subst h
    exact units_short (by decide) rfl
  split
  · next h =>
    subst h
    exact units_short (by decide) rfl
  split
  · next h =>
    rw [toUtf16_of_lt (by omega)]
    exact units_hex4 (by omega)
  · next hquote hslash _ _ _ _ _ hlow =>
    rw [List.singleton_append, units_plain_cons, if_neg hquote, if_neg hslash, if_neg hlow]

theorem ofUtf16_cons {u : Nat} (us : List Nat) (h : ¬ (0xD800 ≤ u ∧ u ≤ 0xDFFF)) :
    ofUtf16 (u :: us) = Char.ofNat u :: ofUtf16 us := by
  cases us with
  | nil => simp only [ofUtf16, if_neg h]
  | cons v us => rw [ofUtf16, if_neg (fun hpair => h (by omega)), if_neg h]

theorem ofUtf16_toUtf16 (c : Char) (us : List Nat) :
    ofUtf16 (toUtf16 c ++ us) = c :: ofUtf16 us := by
  have hvalid : c.toNat < 0xD800 ∨ 0xDFFF < c.toNat ∧ c.toNat < 0x110000 := c.valid
  unfold toUtf16
  split
  · rw [List.singleton_append, ofUtf16_cons us (by omega), Char.ofNat_toNat]
  · have hcode : 0x10000 + (0xD800 + (c.toNat - 0x10000) / 1024 - 0xD800) * 1024 +
        (0xDC00 + (c.toNat - 0x10000) % 1024 - 0xDC00) = c.toNat := by omega
    rw [List.cons_append, List.singleton_append, ofUtf16, if_pos (by omega), hcode,
      Char.ofNat_toNat]

theorem units_quoted (t : List Char) :
    units .plain (quoted t ++ rest) = some (t.flatMap toUtf16, rest) := by
  unfold quoted
  induction t with
  | nil => rfl
  | cons c t ih =>
    rw [List.flatMap_cons, List.append_assoc, List.append_assoc, units_escape, ← List.append_assoc,
      ih]
    rfl

theorem text_quoted (t : List Char) : text (quoted t ++ rest) = some (t, rest) := by
  have hchars : ofUtf16 (t.flatMap toUtf16) = t := by
    induction t with
    | nil => rfl
    | cons c t ih => rw [List.flatMap_cons, ofUtf16_toUtf16, ih]
  rw [text, units_quoted]
  exact congrArg (fun t => some (t, rest)) hchars

/-! ## Numbers are read back -/

/-- No number goes on here. -/
def Stops (rest : List Char) : Prop :=
  ∀ c, rest.head? = some c → c.isDigit = false ∧ c ≠ '.' ∧ c ≠ 'e' ∧ c ≠ 'E'

theorem stops_nil : Stops [] := fun _ h => by cases h

theorem stops_cons (h : c.isDigit = false ∧ c ≠ '.' ∧ c ≠ 'e' ∧ c ≠ 'E') : Stops (c :: rest) := by
  intro c' hc
  obtain rfl : c = c' := Option.some.inj hc
  exact h

theorem exponentDigits_toDigits (sign : Int) (n : Nat)
    (hrest : ∀ c, rest.head? = some c → c.isDigit = false) :
    exponentDigits sign (Nat.toDigits 10 n ++ rest) = some (sign * n, rest) := by
  rw [exponentDigits, digits_append isDigit_toDigits hrest, if_neg Nat.toDigits_ne_nil,
    Nat.ofDigitChars_ten_toDigits]

theorem exponent_integer (e : Int) (hrest : Stops rest) :
    exponent ('e' :: (integer e ++ rest)) = some (e, rest) := by
  have hdigit : ∀ c, rest.head? = some c → c.isDigit = false := fun c hc => (hrest c hc).1
  rw [exponent, List.head?_cons, List.tail_cons, if_pos (Or.inl rfl)]
  unfold integer
  by_cases hneg : e < 0
  · rw [if_pos hneg, List.cons_append, List.head?_cons, if_pos rfl, List.tail_cons,
      exponentDigits_toDigits (-1) _ hdigit]
    refine congrArg (fun e => some (e, rest)) ?_
    omega
  · rw [if_neg hneg, if_neg (head?_toDigits_ne (by decide) rest),
      if_neg (head?_toDigits_ne (by decide) rest), exponentDigits_toDigits 1 _ hdigit]
    refine congrArg (fun e => some (e, rest)) ?_
    omega

theorem exponent_of_stops (h : Stops rest) : exponent rest = some (0, rest) := by
  rw [exponent, if_neg]
  rintro (he | he)
  · exact (h _ he).2.2.1 rfl
  · exact (h _ he).2.2.2 rfl

theorem unsigned_toDigits (sign : Int) (n : Nat) {tail : List Char} {e : Int}
    (hdigit : ∀ c, tail.head? = some c → c.isDigit = false ∧ c ≠ '.')
    (he : exponent tail = some (e, rest)) :
    unsigned sign (Nat.toDigits 10 n ++ tail) =
      some ({ mantissa := sign * n, exponent := e }, rest) := by
  have hfraction : fraction tail = some ([], tail) := by
    rw [fraction, if_neg]
    intro h
    exact (hdigit _ h).2 rfl
  unfold unsigned
  rw [digits_append isDigit_toDigits fun c hc => (hdigit c hc).1]
  dsimp only
  rw [if_neg, hfraction]
  · show (exponent tail).bind _ = _
    rw [he]
    simp [Nat.ofDigitChars_ten_toDigits]
  · rintro (h | ⟨hzero, hlen⟩)
    · exact Nat.toDigits_ne_nil h
    · exact hlen (length_toDigits_of_zero hzero)

/-- **A number is read back.** -/
theorem decimal_number (n : Decimal) (hrest : Stops rest) :
    decimal (number n ++ rest) = some (n, rest) := by
  -- what comes behind the mantissa is no digit and no point
  obtain ⟨tail, htail⟩ : ∃ tail,
      tail = (if n.exponent = 0 then [] else 'e' :: integer n.exponent) ++ rest := ⟨_, rfl⟩
  have hexponent : exponent tail = some (n.exponent, rest) := by
    rw [htail]
    by_cases h0 : n.exponent = 0
    · rw [if_pos h0, List.nil_append, exponent_of_stops hrest, h0]
    · rw [if_neg h0]
      exact exponent_integer _ hrest
  have hdigit : ∀ c, tail.head? = some c → c.isDigit = false ∧ c ≠ '.' := by
    rw [htail]
    intro c hc
    by_cases h0 : n.exponent = 0
    · rw [if_pos h0, List.nil_append] at hc
      exact ⟨(hrest c hc).1, (hrest c hc).2.1⟩
    · rw [if_neg h0] at hc
      obtain rfl : 'e' = c := Option.some.inj hc
      exact ⟨rfl, by decide⟩
  rw [number, List.append_assoc, ← htail]
  unfold integer decimal
  by_cases hneg : n.mantissa < 0
  · rw [if_pos hneg, List.cons_append, List.head?_cons, if_pos rfl, List.tail_cons,
      unsigned_toDigits (-1) _ hdigit hexponent]
    have hm : -1 * (n.mantissa.natAbs : Int) = n.mantissa := by omega
    rw [hm]
  · rw [if_neg hneg, if_neg (head?_toDigits_ne (by decide) tail),
      unsigned_toDigits 1 _ hdigit hexponent]
    have hm : 1 * (n.mantissa.natAbs : Int) = n.mantissa := by omega
    rw [hm]

/-! ## Values are read back -/

theorem skipSpace_cons (h : isSpace c = false) : skipSpace (c :: cs) = c :: cs := by
  rw [skipSpace, List.dropWhile_cons, h]
  rfl

theorem number_eq_cons (n : Decimal) :
    ∃ c cs, number n = c :: cs ∧ (c = '-' ∨ c.isDigit = true) := by
  unfold number integer
  by_cases hneg : n.mantissa < 0
  · rw [if_pos hneg]
    exact ⟨_, _, rfl, Or.inl rfl⟩
  · rw [if_neg hneg]
    obtain ⟨c, hhead, hdigit⟩ := exists_head? Nat.toDigits_ne_nil
      (isDigit_toDigits (n := n.mantissa.natAbs))
      (if n.exponent = 0 then [] else 'e' :: integer n.exponent)
    obtain ⟨cs, hcs⟩ := List.head?_eq_some_iff.mp hhead
    exact ⟨c, cs, hcs, Or.inr hdigit⟩

theorem ne_of_numberChar {d : Char} (h : c = '-' ∨ c.isDigit = true) (hd : d ≠ '-')
    (hdigit : d.isDigit = false) : c ≠ d := by
  rintro rfl
  rcases h with h | h
  · exact hd h
  · rw [hdigit] at h
    cases h

theorem isSpace_numberChar (h : c = '-' ∨ c.isDigit = true) : isSpace c = false := by
  have hne (d : Char) (hd : d ≠ '-') (hdigit : d.isDigit = false) : (c == d) = false :=
    beq_eq_false_iff_ne.mpr (ne_of_numberChar h hd hdigit)
  unfold isSpace
  rw [hne ' ' (by decide) rfl, hne '\t' (by decide) rfl, hne '\n' (by decide) rfl,
    hne '\r' (by decide) rfl]
  rfl

/-- A value begins with no space, and ends no array. -/
theorem stringify_eq_cons (j : Json) :
    ∃ c cs, stringify j = c :: cs ∧ isSpace c = false ∧ c ≠ ']' := by
  cases j with
  | null =>
    rw [stringify]
    exact ⟨_, _, rfl, rfl, by decide⟩
  | bool b =>
    cases b with
    | false =>
      rw [stringify]
      exact ⟨_, _, rfl, rfl, by decide⟩
    | true =>
      rw [stringify]
      exact ⟨_, _, rfl, rfl, by decide⟩
  | num n =>
    obtain ⟨c, cs, hcs, hc⟩ := number_eq_cons n
    refine ⟨c, cs, ?_, isSpace_numberChar hc, ne_of_numberChar hc (by decide) rfl⟩
    rw [stringify, hcs]
  | str t =>
    rw [stringify]
    exact ⟨_, _, rfl, rfl, by decide⟩
  | arr xs =>
    cases xs with
    | nil =>
      rw [stringify]
      exact ⟨_, _, rfl, rfl, by decide⟩
    | cons x xs =>
      rw [stringify]
      exact ⟨_, _, rfl, rfl, by decide⟩
  | obj ms =>
    cases ms with
    | nil =>
      rw [stringify]
      exact ⟨_, _, rfl, rfl, by decide⟩
    | cons m ms =>
      rw [stringify]
      exact ⟨_, _, rfl, rfl, by decide⟩

theorem stops_moreItems (xs : List Json) : Stops (moreItems xs ++ rest) := by
  cases xs with
  | nil =>
    rw [moreItems]
    exact stops_cons (by decide)
  | cons x xs =>
    rw [moreItems]
    exact stops_cons (by decide)

theorem stops_moreMembers (ms : List (List Char × Json)) : Stops (moreMembers ms ++ rest) := by
  cases ms with
  | nil =>
    rw [moreMembers]
    exact stops_cons (by decide)
  | cons m ms =>
    rw [moreMembers]
    exact stops_cons (by decide)

/-- A text with its key and what follows it. -/
def memberText (key : List Char) (x : Json) : List Char := '"' :: (quoted key ++ ':' :: stringify x)

/-- What so much fuel reads. -/
structure Reads (fuel : Nat) : Prop where
  value : ∀ j rest, (stringify j).length ≤ fuel → Stops rest →
    value fuel (stringify j ++ rest) = some (j, rest)
  items : ∀ xs rest, (moreItems xs).length ≤ fuel →
    items fuel (moreItems xs ++ rest) = some (xs, rest)
  member : ∀ key x rest, (memberText key x).length ≤ fuel → Stops rest →
    member fuel (memberText key x ++ rest) = some ((key, x), rest)
  members : ∀ ms rest, (moreMembers ms).length ≤ fuel →
    members fuel (moreMembers ms ++ rest) = some (ms, rest)

theorem length_stringify_pos (j : Json) : 0 < (stringify j).length := by
  obtain ⟨c, cs, hcs, -⟩ := stringify_eq_cons j
  rw [hcs]
  exact Nat.succ_pos _

theorem moreMembers_cons (key : List Char) (x : Json) (ms : List (List Char × Json)) :
    moreMembers ((key, x) :: ms) = ',' :: (memberText key x ++ moreMembers ms) := by
  rw [moreMembers, memberText]
  simp only [List.cons_append, List.append_assoc]

theorem stringify_obj_cons (key : List Char) (x : Json) (ms : List (List Char × Json)) :
    stringify (.obj ((key, x) :: ms)) = '\x7b' :: (memberText key x ++ moreMembers ms) := by
  rw [stringify, memberText]
  simp only [List.cons_append, List.append_assoc]

theorem value_number {fuel : Nat} (n : Decimal) (hrest : Stops rest) :
    Json.value (fuel + 1) (Json.number n ++ rest) = some (.num n, rest) := by
  have hread := decimal_number n hrest
  obtain ⟨c, cs, hcs, hc⟩ := number_eq_cons n
  rw [hcs, List.cons_append] at hread ⊢
  rw [Json.value, skipSpace_cons (isSpace_numberChar hc)]
  dsimp only
  rw [if_neg (ne_of_numberChar hc (by decide) rfl), if_neg (ne_of_numberChar hc (by decide) rfl),
    if_neg (ne_of_numberChar hc (by decide) rfl), if_neg (ne_of_numberChar hc (by decide) rfl),
    if_neg (ne_of_numberChar hc (by decide) rfl), if_neg (ne_of_numberChar hc (by decide) rfl),
    hread]
  rfl

theorem Reads.step_value {fuel : Nat} (ih : Reads fuel) (j : Json)
    (hlen : (stringify j).length ≤ fuel + 1) (hrest : Stops rest) :
    Json.value (fuel + 1) (stringify j ++ rest) = some (j, rest) := by
  cases j with
  | null =>
    rw [stringify]
    rfl
  | bool b =>
    cases b with
    | false =>
      rw [stringify]
      rfl
    | true =>
      rw [stringify]
      rfl
  | num n =>
    rw [stringify]
    exact value_number n hrest
  | str t =>
    rw [stringify, List.cons_append, Json.value, skipSpace_cons rfl]
    dsimp only
    rw [if_pos rfl, text_quoted]
    rfl
  | arr xs =>
    cases xs with
    | nil =>
      rw [stringify]
      rfl
    | cons x xs =>
      obtain ⟨c, cs, hcs, hspace, hne⟩ := stringify_eq_cons x
      have hfirst : ¬ (skipSpace (stringify x ++ (moreItems xs ++ rest))).head? = some ']' := by
        rw [hcs, List.cons_append, skipSpace_cons hspace]
        exact fun h => hne (Option.some.inj h)
      rw [stringify, List.length_cons, List.length_append] at hlen
      rw [stringify, List.cons_append, List.append_assoc, Json.value, skipSpace_cons rfl]
      dsimp only
      rw [if_neg (by decide), if_pos rfl, if_neg hfirst,
        ih.value x _ (by omega) (stops_moreItems xs)]
      show (Json.items fuel (moreItems xs ++ rest)).bind _ = _
      rw [ih.items xs rest (by omega)]
      rfl
  | obj ms =>
    cases ms with
    | nil =>
      rw [stringify]
      rfl
    | cons m ms =>
      obtain ⟨key, x⟩ := m
      have hfirst :
          ¬ (skipSpace (memberText key x ++ (moreMembers ms ++ rest))).head? = some '\x7d' := by
        rw [memberText, List.cons_append, skipSpace_cons rfl, List.head?_cons]
        decide
      rw [stringify_obj_cons, List.length_cons, List.length_append] at hlen
      rw [stringify_obj_cons, List.cons_append, List.append_assoc, Json.value, skipSpace_cons rfl]
      dsimp only
      rw [if_neg (by decide), if_neg (by decide), if_pos rfl, if_neg hfirst,
        ih.member key x _ (by omega) (stops_moreMembers ms)]
      show (Json.members fuel (moreMembers ms ++ rest)).bind _ = _
      rw [ih.members ms rest (by omega)]
      rfl

theorem Reads.step_items {fuel : Nat} (ih : Reads fuel) (xs : List Json)
    (hlen : (moreItems xs).length ≤ fuel + 1) :
    Json.items (fuel + 1) (moreItems xs ++ rest) = some (xs, rest) := by
  cases xs with
  | nil =>
    rw [moreItems]
    rfl
  | cons x xs =>
    rw [moreItems, List.length_cons, List.length_append] at hlen
    rw [moreItems, List.cons_append, List.append_assoc, Json.items, skipSpace_cons rfl]
    dsimp only
    rw [if_neg (by decide), if_pos rfl, ih.value x _ (by omega) (stops_moreItems xs)]
    show (Json.items fuel (moreItems xs ++ rest)).bind _ = _
    rw [ih.items xs rest (by omega)]
    rfl

theorem Reads.step_member {fuel : Nat} (ih : Reads fuel) (key : List Char) (x : Json)
    (hlen : (memberText key x).length ≤ fuel + 1) (hrest : Stops rest) :
    Json.member (fuel + 1) (memberText key x ++ rest) = some ((key, x), rest) := by
  rw [memberText, List.length_cons, List.length_append, List.length_cons] at hlen
  rw [memberText, List.cons_append, List.append_assoc, Json.member, skipSpace_cons rfl]
  dsimp only
  rw [if_pos rfl, text_quoted]
  show (match skipSpace (':' :: (stringify x ++ rest)) with
    | [] => none
    | c :: cs => if c = ':' then (Json.value fuel cs).bind _ else none) = _
  rw [skipSpace_cons rfl]
  dsimp only
  rw [if_pos rfl, ih.value x rest (by omega) hrest]
  rfl

theorem Reads.step_members {fuel : Nat} (ih : Reads fuel) (ms : List (List Char × Json))
    (hlen : (moreMembers ms).length ≤ fuel + 1) :
    Json.members (fuel + 1) (moreMembers ms ++ rest) = some (ms, rest) := by
  cases ms with
  | nil =>
    rw [moreMembers]
    rfl
  | cons m ms =>
    obtain ⟨key, x⟩ := m
    rw [moreMembers_cons, List.length_cons, List.length_append] at hlen
    rw [moreMembers_cons, List.cons_append, List.append_assoc, Json.members, skipSpace_cons rfl]
    dsimp only
    rw [if_neg (by decide), if_pos rfl, ih.member key x _ (by omega) (stops_moreMembers ms)]
    show (Json.members fuel (moreMembers ms ++ rest)).bind _ = _
    rw [ih.members ms rest (by omega)]
    rfl

/-- Every call has a character less to read. -/
theorem reads (fuel : Nat) : Reads fuel := by
  induction fuel with
  | zero =>
    -- there is always a character to read
    refine ⟨fun j rest h _ => ?_, fun xs rest h => ?_, fun key x rest h _ => ?_,
      fun ms rest h => ?_⟩
    · have hpos := length_stringify_pos j
      omega
    · cases xs with
      | nil =>
        rw [moreItems] at h
        exact absurd h (by decide)
      | cons x xs =>
        rw [moreItems] at h
        exact absurd h (by simp)
    · exact absurd h (by simp [memberText])
    · cases ms with
      | nil =>
        rw [moreMembers] at h
        exact absurd h (by decide)
      | cons m ms =>
        rw [moreMembers_cons] at h
        exact absurd h (by simp)
  | succ fuel ih =>
    exact ⟨fun j _ h hrest => ih.step_value j h hrest, fun xs _ h => ih.step_items xs h,
      fun key x _ h hrest => ih.step_member key x h hrest, fun ms _ h => ih.step_members ms h⟩

/-- **A value is read back as it was written.** -/
theorem parse_stringify (j : Json) : parse (stringify j) = some j := by
  have hread := (reads ((stringify j).length + 1)).value j [] (Nat.le_succ _) stops_nil
  rw [List.append_nil] at hread
  rw [parse, hread]
  rfl

/-! ## Texts that are no values -/

/-- A value may begin with the character, or with a space before it. -/
def starts (c : Char) : Bool :=
  isSpace c || c == '"' || c == '[' || c == '\x7b' || c == 'n' || c == 't' || c == 'f' || c == '-' ||
    c.isDigit

theorem starts_eq_false (h : 0x80 ≤ c.toNat) : starts c = false := by
  have hne (d : Char) (hd : d.toNat < 0x80) : (c == d) = false := by
    refine beq_eq_false_iff_ne.mpr ?_
    rintro rfl
    omega
  have hdigit : c.isDigit = false := by
    have hval : ¬ c.val ≤ 57 := fun hle => by
      have hnat : c.toNat ≤ 57 := hle
      omega
    rw [Char.isDigit, Bool.and_eq_false_iff]
    exact Or.inr (decide_eq_false hval)
  unfold starts isSpace
  rw [hne ' ' (by decide), hne '\t' (by decide), hne '\n' (by decide), hne '\r' (by decide),
    hne '"' (by decide), hne '[' (by decide), hne '\x7b' (by decide), hne 'n' (by decide),
    hne 't' (by decide), hne 'f' (by decide), hne '-' (by decide), hdigit]
  rfl

theorem value_of_not_starts (h : starts c = false) (fuel : Nat) : value fuel (c :: cs) = none := by
  cases fuel with
  | zero => rw [value]
  | succ fuel =>
    simp only [starts, Bool.or_eq_false_iff, beq_eq_false_iff_ne] at h
    obtain ⟨⟨⟨⟨⟨⟨⟨⟨hspace, hquote⟩, hbracket⟩, hbrace⟩, hn⟩, ht⟩, hf⟩, hminus⟩, hdigit⟩ := h
    have hdecimal : decimal (c :: cs) = none := by
      have hnone : (digits (c :: cs)).1 = [] := by
        rw [digits, List.takeWhile_cons, hdigit]
        rfl
      rw [decimal, List.head?_cons, if_neg (fun he => hminus (Option.some.inj he)), unsigned,
        if_pos (Or.inl hnone)]
    rw [value, skipSpace_cons hspace]
    dsimp only
    rw [if_neg hquote, if_neg hbracket, if_neg hbrace, if_neg hn, if_neg ht, if_neg hf, hdecimal]
    rfl

theorem parse_of_not_starts (h : ∀ c, cs.head? = some c → starts c = false) : parse cs = none := by
  cases cs with
  | nil => rfl
  | cons c cs => rw [parse, value_of_not_starts (h c rfl)]

/-- A brace is followed by a key or by another brace. -/
theorem parse_brace
    (h : ∀ c, cs.head? = some c → isSpace c = false ∧ c ≠ '"' ∧ c ≠ '\x7d') :
    parse ('\x7b' :: cs) = none := by
  have hvalue (fuel : Nat) : value (fuel + 1) ('\x7b' :: cs) = none := by
    rw [value, skipSpace_cons rfl]
    dsimp only
    rw [if_neg (by decide), if_neg (by decide), if_pos rfl]
    cases cs with
    | nil =>
      rw [if_neg (by decide)]
      cases fuel with
      | zero => rfl
      | succ fuel => rfl
    | cons c cs =>
      obtain ⟨hspace, hquote, hbrace⟩ := h c rfl
      rw [skipSpace_cons hspace, List.head?_cons, if_neg (fun he => hbrace (Option.some.inj he))]
      cases fuel with
      | zero => rw [member]; rfl
      | succ fuel =>
        rw [member, skipSpace_cons hspace]
        dsimp only
        rw [if_neg hquote]
        rfl
  rw [parse, List.length_cons, hvalue]

theorem parse_braces : parse ('\x7b' :: '\x7d' :: cs) = none ∨
    parse ('\x7b' :: '\x7d' :: cs) = some (.obj []) := by
  have hvalue (fuel : Nat) : value (fuel + 1) ('\x7b' :: '\x7d' :: cs) = some (.obj [], cs) := by
    rw [value, skipSpace_cons rfl]
    dsimp only
    rw [if_neg (by decide), if_neg (by decide), if_pos rfl, skipSpace_cons rfl,
      List.head?_cons, if_pos rfl]
    rfl
  rw [parse, List.length_cons, hvalue]
  by_cases hrest : skipSpace cs = []
  · exact Or.inr (if_pos hrest)
  · exact Or.inl (if_neg hrest)

end

end Json

end Infra

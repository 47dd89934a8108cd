import Mathlib.Init

/-!
# Reading UTF-8

A reader that never fails: bytes that are no UTF-8 are read as replacement characters, one for each
longest start of a character.

* `decode_encode` : characters are read back as they were written.
* `beyondAscii_decodeFrom` : a byte beyond ASCII begins no ASCII character.
-/

namespace Infra.Utf8

def encode (text : List Char) : List UInt8 := text.flatMap String.utf8EncodeChar

/-- U+FFFD. -/
def replacement : Char := Char.ofNat 0xFFFD

/-- The rest of a character: how many bytes are missing, between what bounds the next one is, and the
bits so far. -/
structure Pending where
  needed : Nat
  lower : Nat := 0x80
  upper : Nat := 0xBF
  codePoint : Nat
deriving DecidableEq, Repr

/-- The first byte of a character. -/
def first (b : Nat) : List Char × Option Pending :=
  if b ≤ 0x7F then ([Char.ofNat b], none)
  else if 0xC2 ≤ b ∧ b ≤ 0xDF then ([], some { needed := 1, codePoint := b - 0xC0 })
  else if 0xE0 ≤ b ∧ b ≤ 0xEF then
    ([], some { needed := 2, lower := if b = 0xE0 then 0xA0 else 0x80
                upper := if b = 0xED then 0x9F else 0xBF, codePoint := b - 0xE0 })
  else if 0xF0 ≤ b ∧ b ≤ 0xF4 then
    ([], some { needed := 3, lower := if b = 0xF0 then 0x90 else 0x80
                upper := if b = 0xF4 then 0x8F else 0xBF, codePoint := b - 0xF0 })
  else ([replacement], none)

/-- A byte that does not go on with the character begins the next one. -/
def step (pending : Option Pending) (b : Nat) : List Char × Option Pending :=
  match pending with
  | none => first b
  | some p =>
    if p.lower ≤ b ∧ b ≤ p.upper then
      let codePoint := p.codePoint * 64 + (b - 0x80)
      if p.needed = 1 then ([Char.ofNat codePoint], none)
      else ([], some { needed := p.needed - 1, codePoint := codePoint })
    else (replacement :: (first b).1, (first b).2)

def decodeFrom : Option Pending → List UInt8 → List Char
  | none, [] => []
  | some _, [] => [replacement]
  | pending, b :: bytes =>
    (step pending b.toNat).1 ++ decodeFrom (step pending b.toNat).2 bytes

def decode (bytes : List UInt8) : List Char := decodeFrom none bytes

/-! ## Reading what was written -/

section

variable {c : Char} {bytes : List UInt8} {p : Pending} {pending : Option Pending} {b n : Nat}

theorem decodeFrom_cons (h : b < 256) :
    decodeFrom pending (UInt8.ofNat b :: bytes) =
      (step pending b).1 ++ decodeFrom (step pending b).2 bytes := by
  rw [decodeFrom, UInt8.toNat_ofNat', Nat.mod_eq_of_lt h]

/-- A byte in the middle of a character. -/
theorem step_more (hlower : p.lower ≤ b) (hupper : b ≤ p.upper) (h : p.needed ≠ 1) :
    step (some p) b =
      ([], some { needed := p.needed - 1, codePoint := p.codePoint * 64 + (b - 0x80) }) := by
  simp only [step, if_pos (And.intro hlower hupper), if_neg h]

/-- The last byte of a character. -/
theorem step_last (hlower : p.lower ≤ b) (hupper : b ≤ p.upper) (h : p.needed = 1)
    (hc : p.codePoint * 64 + (b - 0x80) = c.toNat) : step (some p) b = ([c], none) := by
  simp only [step, if_pos (And.intro hlower hupper), if_pos h, hc, Char.ofNat_toNat]

theorem first_two (h : 0xC2 ≤ b ∧ b ≤ 0xDF) :
    first b = ([], some { needed := 1, codePoint := b - 0xC0 }) := by
  rw [first, if_neg (by omega), if_pos h]

theorem first_three (h : 0xE0 ≤ b ∧ b ≤ 0xEF) :
    first b = ([], some { needed := 2, lower := if b = 0xE0 then 0xA0 else 0x80
                          upper := if b = 0xED then 0x9F else 0xBF, codePoint := b - 0xE0 }) := by
  rw [first, if_neg (by omega), if_neg (by omega), if_pos h]

theorem first_four (h : 0xF0 ≤ b ∧ b ≤ 0xF4) :
    first b = ([], some { needed := 3, lower := if b = 0xF0 then 0x90 else 0x80
                          upper := if b = 0xF4 then 0x8F else 0xBF, codePoint := b - 0xF0 }) := by
  rw [first, if_neg (by omega), if_neg (by omega), if_neg (by omega), if_pos h]

theorem utf8EncodeChar_eq (c : Char) :
    String.utf8EncodeChar c =
      if c.toNat ≤ 0x7F then [.ofNat c.toNat]
      else if c.toNat ≤ 0x7FF then
        [.ofNat (c.toNat / 64 % 0x20 + 0xC0), .ofNat (c.toNat % 0x40 + 0x80)]
      else if c.toNat ≤ 0xFFFF then
        [.ofNat (c.toNat / 4096 % 0x10 + 0xE0), .ofNat (c.toNat / 64 % 0x40 + 0x80),
          .ofNat (c.toNat % 0x40 + 0x80)]
      else
        [.ofNat (c.toNat / 262144 % 0x08 + 0xF0), .ofNat (c.toNat / 4096 % 0x40 + 0x80),
          .ofNat (c.toNat / 64 % 0x40 + 0x80), .ofNat (c.toNat % 0x40 + 0x80)] := rfl

theorem decodeFrom_encodeChar :
    decodeFrom none (String.utf8EncodeChar c ++ bytes) = c :: decodeFrom none bytes := by
  have hvalid : c.toNat < 0xD800 ∨ 0xDFFF < c.toNat ∧ c.toNat < 0x110000 := c.valid
  rw [utf8EncodeChar_eq]
  split
  · next h₁ =>
    have hfirst : step none c.toNat = ([c], none) := by
      rw [step, first, if_pos h₁, Char.ofNat_toNat]
    rw [List.singleton_append, decodeFrom_cons (by omega), hfirst]
    rfl
  split
  · next h₁ h₂ =>
    rw [List.cons_append, List.singleton_append, decodeFrom_cons (by omega), step,
      first_two (by omega), decodeFrom_cons (by omega),
      step_last (c := c) (by dsimp only; omega) (by dsimp only; omega) rfl (by dsimp only; omega)]
    rfl
  split
  · next h₁ h₂ h₃ =>
    rw [List.cons_append, List.cons_append, List.singleton_append, decodeFrom_cons (by omega), step,
      first_three (by omega), decodeFrom_cons (by omega),
      step_more (by dsimp only; split <;> omega) (by dsimp only; split <;> omega)
        (by dsimp only; omega),
      decodeFrom_cons (by omega),
      step_last (c := c) (by dsimp only; omega) (by dsimp only; omega) rfl (by dsimp only; omega)]
    rfl
  · next h₁ h₂ h₃ =>
    rw [List.cons_append, List.cons_append, List.cons_append, List.singleton_append,
      decodeFrom_cons (by omega), step, first_four (by omega), decodeFrom_cons (by omega),
      step_more (by dsimp only; split <;> omega) (by dsimp only; split <;> omega)
        (by dsimp only; omega),
      decodeFrom_cons (by omega),
      step_more (by dsimp only; omega) (by dsimp only; omega) (by dsimp only; omega),
      decodeFrom_cons (by omega),
      step_last (c := c) (by dsimp only; omega) (by dsimp only; omega) rfl (by dsimp only; omega)]
    rfl

theorem decode_encode (text : List Char) : decode (encode text) = text := by
  induction text with
  | nil => rfl
  | cons c text ih =>
    show decodeFrom none (String.utf8EncodeChar c ++ encode text) = c :: text
    rw [decodeFrom_encodeChar]
    exact congrArg (c :: ·) ih

end

/-! ## What begins with a byte beyond ASCII -/

/-- No ASCII character comes first. -/
def BeyondAscii (text : List Char) : Prop := ∀ c, text.head? = some c → 0x80 ≤ c.toNat

/-- All characters that the bytes may end with are beyond ASCII, and no surrogates. -/
def Pending.High (p : Pending) : Prop :=
  0x80 ≤ p.lower ∧ p.upper ≤ 0xBF ∧
    (p.needed = 1 ∧ 0x80 ≤ p.codePoint * 64 + (p.lower - 0x80) ∧
        (p.codePoint * 64 + (p.upper - 0x80) < 0xD800 ∨
          0xDFFF < p.codePoint * 64 + (p.lower - 0x80) ∧
            p.codePoint * 64 + (p.upper - 0x80) < 0x110000) ∨
      p.needed = 2 ∧ 2 ≤ p.codePoint * 64 + (p.lower - 0x80) ∧
        (p.codePoint * 64 + (p.upper - 0x80) < 0x360 ∨
          0x37F < p.codePoint * 64 + (p.lower - 0x80) ∧
            p.codePoint * 64 + (p.upper - 0x80) < 0x4400) ∨
      p.needed = 3 ∧ 0x10 ≤ p.codePoint * 64 + (p.lower - 0x80) ∧
        p.codePoint * 64 + (p.upper - 0x80) < 0x110)

section

variable {text : List Char} {bytes : List UInt8} {p : Pending} {b : Nat}

theorem beyondAscii_replacement : BeyondAscii (replacement :: text) := by
  intro c hc
  obtain rfl : replacement = c := Option.some.inj hc
  decide

theorem Pending.High.next (h : p.High) (hlower : p.lower ≤ b) (hupper : b ≤ p.upper)
    (hmore : p.needed ≠ 1) :
    Pending.High { needed := p.needed - 1, codePoint := p.codePoint * 64 + (b - 0x80) } := by
  obtain ⟨hl, hu, h | h | h⟩ := h
  · exact absurd h.1 hmore
  · refine ⟨Nat.le_refl _, Nat.le_refl _, Or.inl ⟨?_, ?_, ?_⟩⟩ <;> dsimp only <;> omega
  · refine ⟨Nat.le_refl _, Nat.le_refl _, Or.inr (Or.inl ⟨?_, ?_, ?_⟩)⟩ <;> dsimp only <;> omega

theorem toNat_last (h : p.High) (hlower : p.lower ≤ b) (hupper : b ≤ p.upper)
    (hlast : p.needed = 1) : 0x80 ≤ (Char.ofNat (p.codePoint * 64 + (b - 0x80))).toNat := by
  obtain ⟨hl, hu, h | h | h⟩ := h
  · have hvalid : (p.codePoint * 64 + (b - 0x80)).isValidChar := by
      show _ < 0xD800 ∨ 0xDFFF < _ ∧ _ < 0x110000
      omega
    rw [Char.ofNat, dif_pos hvalid]
    show 0x80 ≤ p.codePoint * 64 + (b - 0x80)
    omega
  · omega
  · omega

theorem beyondAscii_pending (h : p.High) : BeyondAscii (decodeFrom (some p) bytes) := by
  induction bytes generalizing p with
  | nil => exact beyondAscii_replacement
  | cons b bytes ih =>
    rw [decodeFrom]
    by_cases hbounds : p.lower ≤ b.toNat ∧ b.toNat ≤ p.upper
    · by_cases hlast : p.needed = 1
      · simp only [step, if_pos hbounds, if_pos hlast, List.singleton_append]
        intro c hc
        obtain rfl : Char.ofNat _ = c := Option.some.inj hc
        exact toNat_last h hbounds.1 hbounds.2 hlast
      · rw [step_more hbounds.1 hbounds.2 hlast]
        exact ih (h.next hbounds.1 hbounds.2 hlast)
    · simp only [step, if_neg hbounds, List.cons_append]
      exact beyondAscii_replacement

theorem high_of_first (h : 0x80 ≤ b) :
    (first b).1 = [replacement] ∨ (first b).1 = [] ∧ ∃ p, (first b).2 = some p ∧ p.High := by
  unfold first
  rw [if_neg (by omega)]
  split
  · refine Or.inr ⟨rfl, _, rfl, Nat.le_refl _, Nat.le_refl _, Or.inl ⟨rfl, ?_⟩⟩
    dsimp only
    omega
  split
  · refine Or.inr ⟨rfl, _, rfl, ?_, ?_, Or.inr (Or.inl ⟨rfl, ?_⟩)⟩ <;> dsimp only
    · split <;> omega
    · split <;> omega
    · split <;> split <;> omega
  split
  · refine Or.inr ⟨rfl, _, rfl, ?_, ?_, Or.inr (Or.inr ⟨rfl, ?_⟩)⟩ <;> dsimp only
    · split <;> omega
    · split <;> omega
    · split <;> split <;> omega
  · exact Or.inl rfl

theorem decodeFrom_ascii (h : b < 0x80) :
    decodeFrom none (UInt8.ofNat b :: bytes) = Char.ofNat b :: decodeFrom none bytes := by
  rw [decodeFrom_cons (by omega), step, first, if_pos (by omega)]
  rfl

/-- **A byte beyond ASCII begins no ASCII character.** -/
theorem beyondAscii_decodeFrom (h : 0x80 ≤ b) (hb : b < 256) :
    BeyondAscii (decodeFrom none (UInt8.ofNat b :: bytes)) := by
  rw [decodeFrom_cons hb, step]
  rcases high_of_first h with hfirst | ⟨hfirst, p, hp, hhigh⟩
  · rw [hfirst]
    exact beyondAscii_replacement
  · rw [hfirst, hp]
    exact beyondAscii_pending hhigh

end

end Infra.Utf8

import Mathlib.Algebra.Ring.Nat
import Mathlib.Data.List.Basic

/-!
# Decimal digits

The digits that a text begins with, the digits of a number, and so many digits of it.

* `digits_append` : the digits in front are found.
* `ofDigitChars_padded` : a number that fits is that of its last digits.
-/

namespace Infra.Digits

/-- The digits in front, and the rest. -/
def digits (cs : List Char) : List Char × List Char :=
  (cs.takeWhile Char.isDigit, cs.dropWhile Char.isDigit)

/-- So many decimal digits, the last ones of a number. -/
def padded : Nat → Nat → List Char
  | 0, _ => []
  | k + 1, n => padded k (n / 10) ++ [Nat.digitChar (n % 10)]

section

variable {ds rest : List Char} {k n : Nat}

theorem digits_append (hds : ∀ c ∈ ds, c.isDigit = true)
    (hrest : ∀ c, rest.head? = some c → c.isDigit = false) : digits (ds ++ rest) = (ds, rest) := by
  have htake : (ds ++ rest).takeWhile Char.isDigit = ds := by
    rw [List.takeWhile_append_of_pos hds]
    cases rest with
    | nil => simp
    | cons c rest => simp [hrest c rfl]
  have hdrop : (ds ++ rest).dropWhile Char.isDigit = rest := by
    rw [List.dropWhile_append_of_pos hds]
    cases rest with
    | nil => simp
    | cons c rest => simp [hrest c rfl]
  rw [digits, htake, hdrop]

theorem isDigit_toDigits : ∀ c ∈ Nat.toDigits 10 n, c.isDigit = true :=
  fun _ hc => Nat.isDigit_of_mem_toDigits (by decide) (by decide) hc

/-- Digits begin with a digit. -/
theorem exists_head? (hne : ds ≠ []) (hds : ∀ c ∈ ds, c.isDigit = true) (tail : List Char) :
    ∃ c, (ds ++ tail).head? = some c ∧ c.isDigit = true := by
  cases ds with
  | nil => exact absurd rfl hne
  | cons c ds => exact ⟨c, rfl, hds c List.mem_cons_self⟩

theorem head?_ne (hne : ds ≠ []) (hds : ∀ c ∈ ds, c.isDigit = true) {c : Char}
    (hc : c.isDigit = false) (tail : List Char) : (ds ++ tail).head? ≠ some c := by
  obtain ⟨c', hhead, hdigit⟩ := exists_head? hne hds tail
  intro h
  rw [hhead] at h
  rw [Option.some.inj h, hc] at hdigit
  cases hdigit

theorem head?_toDigits_ne {c : Char} (hc : c.isDigit = false) (tail : List Char) :
    (Nat.toDigits 10 n ++ tail).head? ≠ some c :=
  head?_ne Nat.toDigits_ne_nil isDigit_toDigits hc tail

/-- The first digit of a number is 0 only if that is the number. -/
theorem head?_toDigits_pos (h : 0 < n) : (Nat.toDigits 10 n).head? ≠ some '0' := by
  induction n using Nat.strongRecOn with
  | _ n ih =>
    by_cases hn : n < 10
    · rw [Nat.toDigits_of_lt_base hn, List.head?_cons]
      intro h0
      have hzero : n = 0 := Nat.digitChar_eq_zero.mp (Option.some.inj h0)
      omega
    · rw [Nat.toDigits_of_base_le (by decide) (by omega),
        List.head?_append_of_ne_nil _ Nat.toDigits_ne_nil]
      exact ih (n / 10) (by omega) (by omega)

theorem length_toDigits_of_zero (h : (Nat.toDigits 10 n).head? = some '0') :
    (Nat.toDigits 10 n).length = 1 := by
  rcases Nat.eq_zero_or_pos n with rfl | hpos
  · rfl
  · exact absurd h (head?_toDigits_pos hpos)

theorem padded_succ (k n : Nat) :
    padded (k + 1) n = padded k (n / 10) ++ [Nat.digitChar (n % 10)] := rfl

theorem length_padded (k n : Nat) : (padded k n).length = k := by
  induction k generalizing n with
  | zero => rfl
  | succ k ih => rw [padded_succ, List.length_append, ih, List.length_singleton]

theorem isDigit_padded : ∀ c ∈ padded k n, c.isDigit = true := by
  induction k generalizing n with
  | zero => exact fun c hc => nomatch hc
  | succ k ih =>
    intro c hc
    rw [padded_succ, List.mem_append, List.mem_singleton] at hc
    rcases hc with hc | rfl
    · exact ih c hc
    · rw [Nat.isDigit_digitChar]
      exact decide_eq_true (Nat.mod_lt n (by decide))

theorem ofDigitChars_padded (h : n < 10 ^ k) : Nat.ofDigitChars 10 (padded k n) 0 = n := by
  induction k generalizing n with
  | zero =>
    have hzero : n = 0 := by omega
    rw [hzero]
    rfl
  | succ k ih =>
    have hsmall : n / 10 < 10 ^ k := by
      rw [Nat.pow_succ] at h
      omega
    rw [padded_succ, Nat.ofDigitChars_append, ih hsmall,
      Nat.ofDigitChars_cons_digitChar_of_lt_ten (Nat.mod_lt n (by decide)), Nat.ofDigitChars_nil]
    omega

theorem head?_padded_ne (hk : 0 < k) {c : Char} (hc : c.isDigit = false) (tail : List Char) :
    (padded k n ++ tail).head? ≠ some c := by
  refine head?_ne (fun hnil => ?_) isDigit_padded hc tail
  have hlen := length_padded k n
  rw [hnil, List.length_nil] at hlen
  omega

end

end Infra.Digits

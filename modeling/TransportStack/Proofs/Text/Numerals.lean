import Mathlib.Data.Nat.Digits.Defs
import TransportStack.Net.IpReader

/-!
Numerals read back: digits that are written of a number are read as this number, in base ten and in
base sixteen, and only digits and signs are read.
-/

namespace TransportStack.Text

variable {b n : Nat}

/-- What reads digit after digit reads the digits of a number as this number. -/
theorem read_toDigits {read : Nat → List Char → Option Nat} (base : 1 < b)
    (empty : ∀ v, read v [] = some v)
    (concat : ∀ v cs d, d < b →
      read v (cs ++ [d.digitChar]) = (read v cs).map fun n => n * b + d) (n : Nat) :
    read 0 (Nat.toDigits b n) = some n := by
  induction n using Nat.strongRecOn with
  | ind n ih =>
      by_cases single : n < b
      · have first := concat 0 [] n single
        rw [List.nil_append, empty, Option.map_some, Nat.zero_mul, Nat.zero_add] at first
        rw [Nat.toDigits_of_lt_base single, first]
      · have long : b ≤ n := Nat.le_of_not_lt single
        have less : n / b < n := Nat.div_lt_self (by omega) base
        rw [Nat.toDigits_of_base_le base long, concat _ _ _ (Nat.mod_lt n (by omega)), ih _ less,
          Option.map_some, Nat.div_add_mod']

theorem notMem_toDigits (base : 1 < b) {c : Char} (other : ∀ d < b, c ≠ Nat.digitChar d) :
    c ∉ Nat.toDigits b n := by
  induction n using Nat.strongRecOn with
  | ind n ih =>
      by_cases single : n < b
      · rw [Nat.toDigits_of_lt_base single, List.mem_singleton]
        exact other n single
      · have long : b ≤ n := Nat.le_of_not_lt single
        have less : n / b < n := Nat.div_lt_self (by omega) base
        rw [Nat.toDigits_of_base_le base long, List.mem_append, List.mem_singleton, not_or]
        exact ⟨ih _ less, other _ (Nat.mod_lt n (by omega))⟩

theorem head?_toDigits_ne_zero (base : 1 < b) (small : b ≤ 16) (positive : 0 < n) :
    (Nat.toDigits b n).head? ≠ some '0' := by
  induction n using Nat.strongRecOn with
  | ind n ih =>
      by_cases single : n < b
      · have no_zero : ∀ d < 16, 0 < d → Nat.digitChar d ≠ '0' := by decide
        rw [Nat.toDigits_of_lt_base single, List.head?_cons, Ne, Option.some.injEq]
        exact no_zero n (by omega) positive
      · have long : b ≤ n := Nat.le_of_not_lt single
        have less : n / b < n := Nat.div_lt_self (by omega) base
        have front := ih _ less (Nat.div_pos long (by omega))
        rw [Nat.toDigits_of_base_le base long, List.head?_append]
        cases digits : Nat.toDigits b (n / b) with
        | nil => exact absurd digits Nat.toDigits_ne_nil
        | cons c cs => rwa [digits] at front

theorem readDigits_append (v : Nat) (cs ds : List Char) :
    readDigits v (cs ++ ds) = (readDigits v cs).bind fun n => readDigits n ds := by
  induction cs generalizing v with
  | nil => rfl
  | cons c cs ih =>
      rw [List.cons_append, readDigits, readDigits, Option.bind_assoc]
      simp only [ih]

theorem readNatural?_toDigits (n : Nat) : readNatural? (Nat.toDigits 10 n) = some n := by
  have digit : ∀ d < 10, digit? d.digitChar = some d := by decide
  have read : readDigits 0 (Nat.toDigits 10 n) = some n := by
    refine read_toDigits (by decide) (fun v => rfl) (fun v cs d small => ?_) n
    rw [readDigits_append]
    cases readDigits v cs <;> simp [readDigits, digit d small]
  cases digits : Nat.toDigits 10 n with
  | nil => exact absurd digits Nat.toDigits_ne_nil
  | cons c cs => rwa [digits] at read

theorem isSome_digit?_of_readDigits {v : Nat} {cs : List Char} (h : readDigits v cs = some n) :
    ∀ c ∈ cs, (digit? c).isSome := by
  induction cs generalizing v with
  | nil => simp
  | cons c cs ih =>
      obtain ⟨d, first, rest⟩ := Option.bind_eq_some_iff.1 h
      intro c' hc'
      obtain rfl | later := List.mem_cons.1 hc'
      · rw [first]
        rfl
      · exact ih rest c' later

theorem readNatural?_eq_none {c : Char} {cs : List Char} (h : c ∈ cs) (digit : digit? c = none) :
    readNatural? cs = none := by
  cases cs with
  | nil => rfl
  | cons d ds =>
      rw [Option.eq_none_iff_forall_ne_some]
      intro n read
      have some_digit := isSome_digit?_of_readDigits read c h
      rw [digit] at some_digit
      cases some_digit

theorem readNat?_toString {w : Width} (fits : w.holds n = true) :
    w.readNat? (toString n) = some n := by
  have text : (toString n).toList = Nat.toDigits 10 n := by
    rw [Nat.toString_eq_repr, Nat.toList_repr]
  have no_plus : '+' ∉ Nat.toDigits 10 n := notMem_toDigits (by decide) (by decide)
  have no_minus : '-' ∉ Nat.toDigits 10 n := notMem_toDigits (by decide) (by decide)
  have read := readNatural?_toDigits n
  rw [Width.readNat?, Width.read?, text]
  split
  · rename_i plus
    exact absurd (plus ▸ List.mem_cons_self) no_plus
  · rename_i minus
    exact absurd (minus ▸ List.mem_cons_self) no_minus
  · rw [read, Option.map_some, Option.filter_some, Int.ofNat_eq_natCast, if_pos fits]
    rfl

/-- Only digits and signs are read. -/
theorem readNat?_eq_none {w : Width} {s : String} {c : Char} (h : c ∈ s.toList)
    (digit : digit? c = none) (sign : c ≠ '+' ∧ c ≠ '-') : w.readNat? s = none := by
  rw [Width.readNat?, Width.read?]
  split
  · rename_i plus
    rw [plus] at h
    rw [readNatural?_eq_none ((List.mem_cons.1 h).resolve_left sign.1) digit]
    rfl
  · rename_i minus
    rw [minus] at h
    rw [readNatural?_eq_none ((List.mem_cons.1 h).resolve_left sign.2) digit, Option.map_none,
      ite_self]
    rfl
  · rw [readNatural?_eq_none h digit]
    rfl

theorem readHex_append (v : Nat) (cs ds : List Char) :
    readHex v (cs ++ ds) = (readHex v cs).bind fun n => readHex n ds := by
  induction cs generalizing v with
  | nil => rfl
  | cons c cs ih =>
      rw [List.cons_append, readHex, readHex, Option.bind_assoc]
      simp only [ih]

theorem readHex_toDigits (n : Nat) : readHex 0 (Nat.toDigits 16 n) = some n := by
  have digit : ∀ d < 16, hexDigit? d.digitChar = some d := by decide
  refine read_toDigits (by decide) (fun v => rfl) (fun v cs d small => ?_) n
  rw [readHex_append]
  cases readHex v cs <;> simp [readHex, digit d small]

end TransportStack.Text

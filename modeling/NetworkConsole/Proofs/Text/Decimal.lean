import Mathlib.Data.List.Induction
import NetworkConsole.Proofs.Text.Numeral

/-! Decimal numerals by their grammar. A numeral is a digit, or a numeral with one more digit behind it;
each number has one numeral without superfluous zeros, and any number of zeros may stand before it. -/
namespace NetworkConsole.Text

/-- The ten digits, each at the place of its value. -/
def digits : List Char := ['0', '1', '2', '3', '4', '5', '6', '7', '8', '9']

/-- The characters are a numeral for the number. -/
inductive Decimal : List Char → Nat → Prop where
  | digit {c : Char} {value : Nat} (hc : digits[value]? = some c) : Decimal [c] value
  | snoc {cs : List Char} {n : Nat} (h : Decimal cs n) {c : Char} {value : Nat}
      (hc : digits[value]? = some c) : Decimal (cs ++ [c]) (10 * n + value)

/-- No zero stands before other digits. -/
def Plain (cs : List Char) : Prop := cs = ['0'] ∨ cs.head? ≠ some '0'

theorem getElem?_digits_iff (value : Nat) (c : Char) :
    digits[value]? = some c ↔ c.isDigit = true ∧ c.toNat - '0'.toNat = value := by
  have hplaces : ∀ i < 10, digits[i]? = some (Nat.digitChar i) := by decide
  constructor
  · intro hc
    have hvalues : ∀ i < 10, (Nat.digitChar i).isDigit = true ∧
        (Nat.digitChar i).toNat - '0'.toNat = i := by decide
    obtain ⟨hlt, _⟩ := List.getElem?_eq_some_iff.1 hc
    obtain rfl := Option.some.inj ((hplaces value hlt).symm.trans hc)
    exact hvalues value hlt
  · rintro ⟨hdigit, rfl⟩
    obtain ⟨hlt, hchar⟩ := digitChar_of_isDigit hdigit
    rw [hplaces _ hlt, hchar]

theorem mem_digits_iff (c : Char) : c ∈ digits ↔ c.isDigit = true := by
  rw [List.mem_iff_getElem?]
  simp only [getElem?_digits_iff, exists_and_left, exists_eq', and_true]

theorem Decimal.numeral?_eq {cs : List Char} {n : Nat} (h : Decimal cs n) : numeral? cs = some n := by
  rw [numeral?_eq_some_iff]
  induction h with
  | digit hc =>
    obtain ⟨hdigit, hvalue⟩ := (getElem?_digits_iff _ _).1 hc
    refine ⟨⟨List.cons_ne_nil _ _, by simpa using hdigit⟩, ?_⟩
    rw [Nat.ofDigitChars_cons, Nat.ofDigitChars_nil, Nat.mul_zero, Nat.zero_add, hvalue]
  | snoc _ hc ih =>
    obtain ⟨hdigit, hvalue⟩ := (getElem?_digits_iff _ _).1 hc
    obtain ⟨⟨_, hdigits⟩, hn⟩ := ih
    refine ⟨⟨by simp, List.forall_mem_append.2 ⟨hdigits, by simpa using hdigit⟩⟩, ?_⟩
    rw [Nat.ofDigitChars_append, Nat.ofDigitChars_cons, Nat.ofDigitChars_nil, hn, hvalue]

theorem decimal_of_digits {cs : List Char} (hne : cs ≠ []) (h : ∀ c ∈ cs, c.isDigit = true) :
    Decimal cs (Nat.ofDigitChars 10 cs 0) := by
  induction cs using List.reverseRecOn with
  | nil => exact absurd rfl hne
  | append_singleton cs c ih =>
    obtain ⟨hcs, hlast⟩ := List.forall_mem_append.1 h
    have hc := (getElem?_digits_iff _ c).2 ⟨hlast c (List.mem_singleton_self c), rfl⟩
    rw [Nat.ofDigitChars_append, Nat.ofDigitChars_cons, Nat.ofDigitChars_nil]
    by_cases hcs_ne : cs = []
    · subst hcs_ne
      rw [Nat.ofDigitChars_nil, Nat.mul_zero, Nat.zero_add]
      exact .digit hc
    · exact .snoc (ih hcs_ne hcs) hc

/-- A numeral is read as the number that it is for. -/
theorem numeral?_eq_some_iff_decimal (cs : List Char) (n : Nat) :
    numeral? cs = some n ↔ Decimal cs n := by
  refine ⟨fun h => ?_, Decimal.numeral?_eq⟩
  obtain ⟨⟨hne, hdigits⟩, rfl⟩ := (numeral?_eq_some_iff cs n).1 h
  exact decimal_of_digits hne hdigits

theorem Decimal.unique {cs : List Char} {m n : Nat} (h : Decimal cs m) (h' : Decimal cs n) : m = n :=
  Option.some.inj (h.numeral?_eq.symm.trans h'.numeral?_eq)

theorem exists_decimal_iff (cs : List Char) :
    (∃ n, Decimal cs n) ↔ cs ≠ [] ∧ ∀ c ∈ cs, c ∈ digits := by
  simp only [← numeral?_eq_some_iff_decimal, numeral?_eq_some_iff, exists_and_left, exists_eq',
    and_true, mem_digits_iff]

theorem plain_iff_dropZeros {cs : List Char} (hne : cs ≠ []) : Plain cs ↔ dropZeros cs = cs := by
  cases cs with
  | nil => exact absurd rfl hne
  | cons first rest =>
    by_cases hzero : first = '0'
    · subst hzero
      cases rest with
      | nil => simp [Plain, dropZeros]
      | cons c cs =>
        refine iff_of_false (by simp [Plain]) fun hdrop => ?_
        have hle := length_dropZeros_le (c :: cs)
        rw [dropZeros] at hdrop
        rw [hdrop, List.length_cons] at hle
        omega
    · rw [dropZeros_of_ne hzero]
      simp [Plain, hzero]

/-- The digits of a number are its plain numeral. -/
theorem plain_decimal_iff (cs : List Char) (n : Nat) :
    Decimal cs n ∧ Plain cs ↔ cs = Nat.toDigits 10 n := by
  rw [← numeral?_eq_some_iff_decimal]
  constructor
  · rintro ⟨hread, hplain⟩
    have hne := ((numeral?_eq_some_iff cs n).1 hread).1.1
    rw [← dropZeros_of_numeral? hread, (plain_iff_dropZeros hne).1 hplain]
  · rintro rfl
    exact ⟨numeral?_toDigits n, (plain_iff_dropZeros Nat.toDigits_ne_nil).2 (dropZeros_toDigits n)⟩

/-- Zeros in front leave the number. -/
theorem Decimal.zeros {cs : List Char} {n : Nat} (h : Decimal cs n) (count : Nat) :
    Decimal (List.replicate count '0' ++ cs) n := by
  have hzeros : Nat.ofDigitChars 10 (List.replicate count '0') 0 = 0 := by
    induction count with
    | zero => rfl
    | succ count ih => exact ih
  rw [← numeral?_eq_some_iff_decimal, numeral?_eq_some_iff] at h ⊢
  obtain ⟨⟨hne, hdigits⟩, hn⟩ := h
  refine ⟨⟨by simp [hne], List.forall_mem_append.2 ⟨fun c hc => ?_, hdigits⟩⟩, ?_⟩
  · rw [List.eq_of_mem_replicate hc]
    rfl
  · rw [Nat.ofDigitChars_append, hzeros, hn]

end NetworkConsole.Text

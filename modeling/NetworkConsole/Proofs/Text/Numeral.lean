import NetworkConsole.Proofs.Text.Spelling

/-! Numerals and the numbers that they denote. The digits of a number are the only numeral for it
without superfluous zeros, so that reading a numeral and writing the number again drops these zeros
and nothing else. -/
namespace NetworkConsole.Text

/-- Drops the zeros at the front that have something behind them. -/
def dropZeros : List Char → List Char
  | '0' :: c :: cs => dropZeros (c :: cs)
  | cs => cs

theorem dropZeros_of_ne {c : Char} (h : c ≠ '0') (cs : List Char) : dropZeros (c :: cs) = c :: cs := by
  cases cs <;> simp [dropZeros, h]

theorem digitChar_of_isDigit {c : Char} (h : c.isDigit = true) :
    c.toNat - '0'.toNat < 10 ∧ Nat.digitChar (c.toNat - '0'.toNat) = c := by
  have hrange : 48 ≤ c.toNat ∧ c.toNat ≤ 57 := by
    simpa [Char.isDigit, UInt32.le_iff_toNat_le] using h
  have hzero : '0'.toNat = 48 := rfl
  have hlt : c.toNat - '0'.toNat < 10 := by omega
  refine ⟨hlt, Char.toNat_inj.1 ?_⟩
  rw [Nat.toNat_digitChar_of_lt_ten hlt]
  omega

/-- Digits behind those of a positive number are digits of the larger number. -/
theorem toDigits_ofDigitChars_of_pos {cs : List Char} (h : ∀ c ∈ cs, c.isDigit = true) {n : Nat}
    (hn : 0 < n) : Nat.toDigits 10 (Nat.ofDigitChars 10 cs n) = Nat.toDigits 10 n ++ cs := by
  induction cs generalizing n with
  | nil => simp
  | cons c cs ih =>
    obtain ⟨hc, hcs⟩ := List.forall_mem_cons.1 h
    obtain ⟨hlt, hchar⟩ := digitChar_of_isDigit hc
    have hstep : Nat.toDigits 10 n ++ [c] = Nat.toDigits 10 (10 * n + (c.toNat - '0'.toNat)) := by
      rw [← Nat.toDigits_append_toDigits (by decide) hn hlt, Nat.toDigits_of_lt_base hlt, hchar]
    rw [Nat.ofDigitChars_cons, ih hcs (by omega), ← hstep, List.append_assoc]
    rfl

theorem toDigits_ofDigitChars {cs : List Char} (hne : cs ≠ []) (h : ∀ c ∈ cs, c.isDigit = true) :
    Nat.toDigits 10 (Nat.ofDigitChars 10 cs 0) = dropZeros cs := by
  induction cs with
  | nil => exact absurd rfl hne
  | cons c cs ih =>
    obtain ⟨hc, hcs⟩ := List.forall_mem_cons.1 h
    rw [Nat.ofDigitChars_cons]
    by_cases hzero : c = '0'
    · subst hzero
      cases cs with
      | nil => rfl
      | cons next rest => exact ih (List.cons_ne_nil next rest) hcs
    · obtain ⟨hlt, hchar⟩ := digitChar_of_isDigit hc
      have hpos : 0 < c.toNat - '0'.toNat := by
        refine Nat.pos_of_ne_zero fun hvalue => hzero ?_
        rw [← hchar, hvalue]
        rfl
      rw [Nat.mul_zero, Nat.zero_add, toDigits_ofDigitChars_of_pos hcs hpos,
        Nat.toDigits_of_lt_base hlt, hchar, dropZeros_of_ne hzero]
      rfl

theorem numeral?_eq_some_iff (cs : List Char) (n : Nat) :
    numeral? cs = some n ↔
      (cs ≠ [] ∧ ∀ c ∈ cs, c.isDigit = true) ∧ Nat.ofDigitChars 10 cs 0 = n := by
  simp [numeral?]

theorem dropZeros_of_numeral? {cs : List Char} {n : Nat} (h : numeral? cs = some n) :
    dropZeros cs = Nat.toDigits 10 n := by
  obtain ⟨⟨hne, hdigits⟩, rfl⟩ := (numeral?_eq_some_iff cs n).1 h
  exact (toDigits_ofDigitChars hne hdigits).symm

theorem numeral?_toDigits (n : Nat) : numeral? (Nat.toDigits 10 n) = some n := by
  rw [← Nat.toList_repr, numeral?_repr]

theorem number?_eq_some_iff (text : String) (n : UInt32) :
    number? text = some n ↔ numeral? text.toList = some n.toNat := by
  rw [number?]
  cases numeral? text.toList with
  | none => simp
  | some m =>
    by_cases hm : m < UInt32.size
    · simp only [hm, if_true, Option.some.injEq]
      constructor
      · rintro rfl
        exact (UInt32.toNat_ofNat_of_lt hm).symm
      · rintro rfl
        exact UInt32.ofNat_toNat
    · simp only [hm, if_false, reduceCtorEq, Option.some.injEq, false_iff]
      rintro rfl
      exact hm n.toNat_lt

theorem toList_number (n : UInt32) : (toString n).toList = Nat.toDigits 10 n.toNat := by
  rw [show toString n = n.toNat.repr from rfl, Nat.toList_repr]

theorem number?_toString (n : UInt32) : number? (toString n) = some n := by
  rw [number?_eq_some_iff, toList_number, numeral?_toDigits]

theorem dropZeros_of_number? {text : String} {n : UInt32} (h : number? text = some n) :
    String.ofList (dropZeros text.toList) = toString n := by
  rw [dropZeros_of_numeral? ((number?_eq_some_iff text n).1 h), ← toList_number, String.ofList_toList]

theorem dropZeros_toDigits (n : Nat) : dropZeros (Nat.toDigits 10 n) = Nat.toDigits 10 n :=
  dropZeros_of_numeral? (numeral?_toDigits n)

theorem length_dropZeros_le (cs : List Char) : (dropZeros cs).length ≤ cs.length := by
  fun_induction dropZeros cs with
  | case1 c cs ih => exact Nat.le_succ_of_le ih
  | case2 cs _ => exact Nat.le_refl _

/-- The digits of a number have no superfluous zero. -/
theorem toDigits_ne_zero_cons (n : Nat) (c : Char) (cs : List Char) :
    Nat.toDigits 10 n ≠ '0' :: c :: cs := by
  intro h
  have hdrop := dropZeros_toDigits n
  rw [h, dropZeros] at hdrop
  have hle := length_dropZeros_le (c :: cs)
  rw [hdrop, List.length_cons] at hle
  omega

/-- An octet has one numeral only. -/
theorem octet?_eq_some_iff (cs : List Char) (n : Nat) :
    octet? cs = some n ↔ cs = Nat.toDigits 10 n ∧ n < 256 := by
  have hnumeral : cs = Nat.toDigits 10 n → numeral? cs = some n := by
    rintro rfl
    exact numeral?_toDigits n
  fun_cases octet? cs with
  | case1 c rest =>
    refine iff_of_false (by simp) fun hboth => ?_
    exact toDigits_ne_zero_cons n c rest hboth.1.symm
  | case2 _ hplain m hm hlt =>
    have hdigits : cs = Nat.toDigits 10 m := by
      rw [← dropZeros_of_numeral? hm, dropZeros]
      exact hplain
    rw [Option.some.injEq]
    constructor
    · rintro rfl
      exact ⟨hdigits, hlt⟩
    · intro hboth
      exact Option.some.inj (hm.symm.trans (hnumeral hboth.1))
  | case3 _ hplain m hm hlt =>
    refine iff_of_false (by simp) fun hboth => ?_
    obtain rfl := Option.some.inj (hm.symm.trans (hnumeral hboth.1))
    exact hlt hboth.2
  | case4 _ hplain hnone =>
    refine iff_of_false (by simp) fun hboth => ?_
    cases hnone.symm.trans (hnumeral hboth.1)

end NetworkConsole.Text

import NetworkConsole.AccessList

/-! Texts that determine what they spell: words joined by a separator that none of them has, numerals,
addresses and keywords. -/
namespace NetworkConsole

namespace Text

theorem notMem_toDigits {c : Char} (hc : c.isDigit = false) (n : Nat) :
    c ∉ Nat.toDigits 10 n := by
  intro hmem
  have hdigit := Nat.isDigit_of_mem_toDigits (by decide) (by decide) hmem
  rw [hc] at hdigit
  cases hdigit

/-- A written number reads as itself. -/
theorem numeral?_repr (n : Nat) : numeral? n.repr.toList = some n := by
  have hdigits : (Nat.toDigits 10 n).all Char.isDigit = true :=
    List.all_eq_true.2 fun c hc => Nat.isDigit_of_mem_toDigits (by decide) (by decide) hc
  have hne : Nat.toDigits 10 n ≠ [] := Nat.toDigits_ne_nil
  rw [Nat.toList_repr, numeral?, hdigits]
  simp [hne, Nat.ofDigitChars_toDigits]

theorem repr_inj {m n : Nat} (h : m.repr = n.repr) : m = n :=
  Option.some.inj ((numeral?_repr m).symm.trans (h ▸ numeral?_repr n))

/-- Words can be read back from between the separators. -/
theorem intercalate_inj {separator : String} {c : Char} (hseparator : separator.toList = [c])
    {xs ys : List String} (hx : ∀ w ∈ xs, c ∉ w.toList) (hy : ∀ w ∈ ys, c ∉ w.toList)
    (hxs : xs ≠ []) (hys : ys ≠ [])
    (h : String.intercalate separator xs = String.intercalate separator ys) : xs = ys := by
  have hread : ∀ ws : List String, (∀ w ∈ ws, c ∉ w.toList) → ws ≠ [] →
      (String.intercalate separator ws).toList.splitOn c = ws.map String.toList := by
    intro ws hws hne
    rw [String.toList_intercalate, hseparator, List.splitOn_intercalate]
    · simpa using hws
    · simpa using hne
  have hlists : xs.map String.toList = ys.map String.toList := by
    rw [← hread xs hx hxs, ← hread ys hy hys, h]
  exact (List.map_inj_right fun _ _ => String.toList_inj.1).1 hlists

/-- Words with single blanks between them. -/
def spaced (words : List String) : String := String.intercalate " " words

/-- The word has no space. -/
def Solid (word : String) : Prop := ' ' ∉ word.toList

theorem spaced_inj {xs ys : List String} (hx : ∀ w ∈ xs, Solid w) (hy : ∀ w ∈ ys, Solid w)
    (hxs : xs ≠ []) (hys : ys ≠ []) (h : spaced xs = spaced ys) : xs = ys :=
  intercalate_inj (c := ' ') (by simp) hx hy hxs hys h

theorem notMem_number {c : Char} (hc : c.isDigit = false) (n : UInt32) :
    c ∉ (toString n).toList := by
  rw [show toString n = n.toNat.repr from rfl, Nat.toList_repr]
  exact notMem_toDigits hc n.toNat

theorem solid_number (n : UInt32) : Solid (toString n) := notMem_number (by decide) n

theorem number_inj {m n : UInt32} (h : toString m = toString n) : m = n :=
  UInt32.toNat_inj.1 (repr_inj h)

end Text

namespace Address

theorem octets_inj {a b : Address} (h : a.octets = b.octets) : a = b := by
  have ha := a.value.toNat_lt
  have hb := b.value.toNat_lt
  simp only [octets, List.cons.injEq, and_true] at h
  have hvalue : a.value.toNat = b.value.toNat := by omega
  cases a
  cases b
  exact congrArg Address.mk (UInt32.toNat_inj.1 hvalue)

theorem text_inj {a b : Address} (h : a.text = b.text) : a = b := by
  have hdot : ∀ c : Address, ∀ w ∈ c.octets.map toString, '.' ∉ w.toList := by
    intro c w hw
    obtain ⟨n, _, rfl⟩ := List.mem_map.1 hw
    rw [show toString n = n.repr from rfl, Nat.toList_repr]
    exact Text.notMem_toDigits (by decide) n
  have hne : ∀ c : Address, c.octets.map toString ≠ [] := by simp [octets]
  have htexts := Text.intercalate_inj (c := '.') (by simp) (hdot a) (hdot b) (hne a) (hne b) h
  exact octets_inj ((List.map_inj_right fun _ _ => Text.repr_inj).1 htexts)

theorem notMem_text {c : Char} (hc : c.isDigit = false) (hdot : c ≠ '.') (address : Address) :
    c ∉ address.text.toList := by
  have hdigits : ∀ n, c ∉ Nat.toDigits 10 n := Text.notMem_toDigits hc
  simp [text, octets, hdigits, hdot]

theorem solid_text (address : Address) : Text.Solid address.text :=
  notMem_text (by decide) (by decide) address

end Address

namespace AccessList

theorem Action.spelling_inj {x y : Action} (h : toString x = toString y) : x = y := by
  revert h; cases x <;> cases y <;> decide

theorem Action.solid (x : Action) : Text.Solid (toString x) := by
  cases x <;> simp [Text.Solid, toString, Keyword.spelling]

theorem Protocol.spelling_inj {x y : Protocol} (h : toString x = toString y) : x = y := by
  revert h; cases x <;> cases y <;> decide

theorem Protocol.solid (x : Protocol) : Text.Solid (toString x) := by
  cases x <;> simp [Text.Solid, toString, Keyword.spelling]

end AccessList
end NetworkConsole

import NetworkConsole.Proofs.Text.Numeral

/-! Dotted texts of addresses. Each address has one text, and no other text is read as it. -/
namespace NetworkConsole.Address

theorem octets_lt (address : Address) : ∀ n ∈ address.octets, n < 256 := by
  have hvalue := address.value.toNat_lt
  simp only [octets, List.forall_mem_cons, List.not_mem_nil, false_imp_iff, forall_const, and_true]
  omega

/-- The parts of the text are the numerals of the octets. -/
theorem splitOn_text (address : Address) :
    address.text.toList.splitOn '.' = address.octets.map (Nat.toDigits 10) := by
  have hparts : address.text.toList =
      ['.'].intercalate (address.octets.map (Nat.toDigits 10)) := by
    rw [text, String.toList_intercalate, List.map_map]
    congr 1
    exact List.map_congr_left fun n _ => Nat.toList_repr
  rw [hparts]
  refine List.splitOn_intercalate '.' ?_ (by simp [octets])
  intro part hpart
  obtain ⟨n, _, rfl⟩ := List.mem_map.1 hpart
  exact Text.notMem_toDigits (by decide) n

theorem splitOn_eq_splitOn_iff (x y : String) :
    x.toList.splitOn '.' = y.toList.splitOn '.' ↔ x = y := by
  constructor
  · intro h
    have hjoin : ∀ text : String, ['.'].intercalate (text.toList.splitOn '.') = text.toList :=
      fun _ => List.intercalate_splitOn '.'
    rw [← String.toList_inj, ← hjoin x, h, hjoin]
  · rintro rfl
    rfl

theorem ofOctets_eq_iff {a b c d : Nat} (ha : a < 256) (hb : b < 256) (hc : c < 256) (hd : d < 256)
    (address : Address) : ofOctets a b c d = address ↔ address.octets = [a, b, c, d] := by
  rw [← octets_ofOctets ha hb hc hd]
  constructor
  · rintro rfl
    rfl
  · intro h
    exact (octets_inj h).symm

/-- Four parts are read, each as an octet. -/
theorem ofString?_eq_some_iff (text : String) (address : Address) :
    ofString? text = some address ↔ text = address.text := by
  rw [← splitOn_eq_splitOn_iff, splitOn_text, ofString?]
  constructor
  · intro h
    split at h
    · next a b c d hparts =>
      simp only [List.map_eq_cons_iff, List.map_eq_nil_iff, Text.octet?_eq_some_iff] at hparts
      obtain ⟨_, _, hsplit, ⟨rfl, ha⟩, _, _, rfl, ⟨rfl, hb⟩, _, _, rfl, ⟨rfl, hc⟩, _, _, rfl,
        ⟨rfl, hd⟩, rfl⟩ := hparts
      rw [hsplit, (ofOctets_eq_iff ha hb hc hd address).1 (Option.some.inj h)]
      rfl
    · cases h
  · intro h
    obtain ⟨a, b, c, d, hoctets⟩ : ∃ a b c d, address.octets = [a, b, c, d] := ⟨_, _, _, _, rfl⟩
    have hlt := address.octets_lt
    rw [hoctets] at h hlt
    simp only [List.forall_mem_cons, List.not_mem_nil, false_imp_iff, forall_const,
      and_true] at hlt
    obtain ⟨ha, hb, hc, hd⟩ := hlt
    have hread : ∀ n < 256, Text.octet? (Nat.toDigits 10 n) = some n := fun n hn =>
      (Text.octet?_eq_some_iff _ n).2 ⟨rfl, hn⟩
    simp only [h, List.map_cons, List.map_nil, hread a ha, hread b hb, hread c hc, hread d hd]
    rw [(ofOctets_eq_iff ha hb hc hd address).2 hoctets]

end NetworkConsole.Address

import Mathlib.Data.List.Permutation
import Mathlib.Data.Multiset.ZeroCons
import NetworkConsole.Connection

/-! Equality of connections. What a connection says is its cable and its ends without their order:
equality compares these two, and whether it joins a pair or contains a device depends on the ends
alone. -/
namespace NetworkConsole.Connection

/-- The endpoints without their order. One that stands on both sides counts twice. -/
def ends (connection : Connection) : Multiset String := {connection.left, connection.right}

theorem joins_iff_ends (connection : Connection) (a b : String) :
    connection.joins a b = true ↔ connection.ends = {a, b} := by
  have hpairs : connection.ends = {a, b} ↔ [connection.left, connection.right].Perm [a, b] :=
    Multiset.coe_eq_coe
  rw [joins_iff, hpairs, List.perm_pair]
  simp only [List.cons.injEq, and_true]

theorem contains_iff_ends (connection : Connection) (device : String) :
    connection.contains device = true ↔ device ∈ connection.ends := by
  simp [contains, endpoints, ends]

theorem beq_iff_ends (x y : Connection) :
    (x == y) = true ↔ x.cable = y.cable ∧ x.ends = y.ends := by
  have hbeq : (x == y) = (x.cable == y.cable && x.joins y.left y.right) := rfl
  rw [hbeq, Bool.and_eq_true, beq_iff_eq, joins_iff_ends]
  rfl

instance : EquivBEq Connection where
  rfl := (beq_iff_ends _ _).2 ⟨rfl, rfl⟩
  symm := by
    intro x y h
    obtain ⟨hcable, hends⟩ := (beq_iff_ends x y).1 h
    exact (beq_iff_ends y x).2 ⟨hcable.symm, hends.symm⟩
  trans := by
    intro x y z hxy hyz
    obtain ⟨hcable, hends⟩ := (beq_iff_ends x y).1 hxy
    obtain ⟨hcable', hends'⟩ := (beq_iff_ends y z).1 hyz
    exact (beq_iff_ends x z).2 ⟨hcable.trans hcable', hends.trans hends'⟩

theorem joins_comm (connection : Connection) (a b : String) :
    connection.joins a b = connection.joins b a := by
  rw [Bool.eq_iff_iff, joins_iff_ends, joins_iff_ends, Multiset.pair_comm]

theorem joins_congr {x y : Connection} (h : x.ends = y.ends) (a b : String) :
    x.joins a b = y.joins a b := by
  rw [Bool.eq_iff_iff, joins_iff_ends, joins_iff_ends, h]

theorem contains_congr {x y : Connection} (h : x.ends = y.ends) (device : String) :
    x.contains device = y.contains device := by
  rw [Bool.eq_iff_iff, contains_iff_ends, contains_iff_ends, h]

/-- Connections are equal when they have the same cable and the same two ends, each as often. This is
an equivalence, the direction of a connection has no part in it, and equal connections contain the
same devices and join the same pairs. -/
theorem equality_lawful :
    (∀ x : Connection, (x == x) = true) ∧
    (∀ x y : Connection, (x == y) = (y == x)) ∧
    (∀ x y z : Connection, (x == y) = true → (y == z) = true → (x == z) = true) ∧
    (∀ x y : Connection, (x == y) = true ↔
      x.cable = y.cable ∧ ({x.left, x.right} : Multiset String) = {y.left, y.right}) ∧
    (∀ (x : Connection) (a b : String), x.joins a b = x.joins b a) ∧
    ∀ x y : Connection, (x == y) = true →
      (∀ device, x.contains device = y.contains device) ∧
        ∀ a b, x.joins a b = y.joins a b := by
  refine ⟨fun x => BEq.rfl, fun x y => BEq.comm, fun x y z => BEq.trans, beq_iff_ends, joins_comm,
    fun x y h => ?_⟩
  obtain ⟨_, hends⟩ := (beq_iff_ends x y).1 h
  exact ⟨contains_congr hends, joins_congr hends⟩

/-- A connection equals the one in the other direction. A loop contains no device that the connection
does not contain, and equals it in neither order. -/
theorem equality_lawful_turned :
    let x : Connection := ⟨"r1", "sw1", .fiber⟩
    let y : Connection := ⟨"sw1", "r1", .fiber⟩
    let loop : Connection := ⟨"r1", "r1", .fiber⟩
    (x == y) = true ∧ (y == x) = true ∧ (x == x) = true ∧ y.joins "r1" "sw1" = true ∧
      x.contains "sw2" = y.contains "sw2" ∧ (loop == x) = false ∧ (x == loop) = false := by
  intro x y loop
  obtain ⟨_, _, htrans, _, _, hsame⟩ := equality_lawful
  have hxy : (x == y) = true := by decide
  have hyx : (y == x) = true := by decide
  obtain ⟨hcontains, hjoins⟩ := hsame y x hyx
  exact ⟨hxy, hyx, htrans x y x hxy hyx, (hjoins "r1" "sw1").trans (by decide),
    (hcontains "sw2").symm, by decide, by decide⟩

end NetworkConsole.Connection

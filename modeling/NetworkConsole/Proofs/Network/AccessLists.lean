import NetworkConsole.Proofs.Network.Recent

/-! Access lists as a device numbers them. The rules of a device stand in one list, and the next sequence
number is looked for among those of the same list number; so each list counts its rules in steps of ten,
whatever else is added in between, until the numbers no longer fit in 32 bits. -/
namespace NetworkConsole
namespace AccessList
variable {rules : List Rule}

theorem ofNumber_concat (number : UInt32) (rules : List Rule) (rule : Rule) :
    ofNumber number (rules ++ [rule]) =
      if rule.number = number then ofNumber number rules ++ [rule] else ofNumber number rules := by
  by_cases h : rule.number = number <;> simp [ofNumber, h]

theorem nextSequence_congr {number : UInt32} {other : List Rule}
    (h : ofNumber number rules = ofNumber number other) :
    nextSequence number rules = nextSequence number other := by
  rw [nextSequence, nextSequence, h]

theorem toNat_foldl_max (sequences : List UInt32) (start : UInt32) :
    (sequences.foldl max start).toNat = (sequences.map UInt32.toNat).foldl max start.toNat := by
  induction sequences generalizing start with
  | nil => rfl
  | cons sequence rest ih =>
    rw [List.foldl_cons, ih, UInt32.toNat_max, List.map_cons, List.foldl_cons]

theorem foldl_max_steps (count : Nat) :
    ((List.range count).map fun k => 10 * (k + 1)).foldl max 0 = 10 * count := by
  induction count with
  | zero => rfl
  | succ count ih =>
    rw [List.range_succ, List.map_append, List.foldl_append, ih]
    simp only [List.map_cons, List.map_nil, List.foldl_cons, List.foldl_nil]
    omega

/-- The rules have the sequence numbers 10, 20, 30, and so on. -/
def Counted (rules : List Rule) : Prop :=
  rules.map (·.sequence.toNat) = (List.range rules.length).map fun k => 10 * (k + 1)

theorem toNat_nextSequence {number : UInt32} (h : Counted (ofNumber number rules))
    (hfits : 10 * ((ofNumber number rules).length + 1) < UInt32.size) :
    (nextSequence number rules).toNat = 10 * ((ofNumber number rules).length + 1) := by
  have hlargest : (((ofNumber number rules).map Rule.sequence).foldl max 0).toNat =
      10 * (ofNumber number rules).length := by
    rw [toNat_foldl_max, List.map_map, ← foldl_max_steps, ← h]
    rfl
  rw [nextSequence, UInt32.toNat_add, hlargest]
  exact Nat.mod_eq_of_lt hfits

theorem Counted.concat (h : Counted rules) {rule : Rule}
    (hrule : rule.sequence.toNat = 10 * (rules.length + 1)) : Counted (rules ++ [rule]) := by
  rw [Counted, List.map_append, h, List.length_append, List.length_singleton, List.range_succ,
    List.map_append, List.map_singleton, List.map_singleton, hrule]

theorem Counted.pairwise_ne (h : Counted rules) :
    rules.Pairwise fun x y => x.sequence ≠ y.sequence := by
  have hsteps : (rules.map (·.sequence.toNat)).Pairwise (· < ·) := by
    rw [h, List.pairwise_map]
    exact List.pairwise_lt_range.imp fun hlt => by omega
  refine (List.pairwise_map.1 hsteps).imp fun hlt hsame => ?_
  rw [hsame] at hlt
  exact Nat.lt_irrefl _ hlt

/-- Each list counts its rules as far as sequence numbers go. -/
def InSequence (rules : List Rule) : Prop :=
  ∀ number, (ofNumber number rules).length ≤ 429496729 → Counted (ofNumber number rules)

theorem inSequence_nil : InSequence [] := fun _ _ => rfl

theorem InSequence.concat (h : InSequence rules) {rule : Rule}
    (hrule : rule.sequence = nextSequence rule.number rules) : InSequence (rules ++ [rule]) := by
  intro number hbound
  rw [ofNumber_concat] at hbound ⊢
  by_cases hnumber : rule.number = number
  · rw [if_pos hnumber] at hbound ⊢
    rw [List.length_append, List.length_singleton] at hbound
    have hold := h number (by omega)
    refine hold.concat ?_
    rw [hrule, hnumber]
    exact toNat_nextSequence hold (by rw [UInt32.size]; omega)
  · rw [if_neg hnumber] at hbound ⊢
    exact h number hbound

theorem InSequence.pairwise (h : InSequence rules) :
    rules.Pairwise fun x y => (ofNumber x.number rules).length ≤ 429496729 →
      x.number = y.number → x.sequence ≠ y.sequence := by
  rw [List.pairwise_iff_getElem]
  intro i j hi hj hij hbound hnumber
  have hlist := (h _ hbound).pairwise_ne
  rw [ofNumber, List.pairwise_filter, List.pairwise_iff_getElem] at hlist
  exact hlist i j hi hj hij (by simp) (by simp [hnumber])

end AccessList

namespace Network
variable {net : Network}

/-- The rule that an operation adds to the device, as it answers. -/
def Operation.addedRule? (name : String) : Operation × Network → Option AccessList.Rule
  | (.addRule device number action entry, net) =>
    if device = name then (Network.addRule device number action entry net).1.toOption else none
  | _ => none

/-- The rules that were added to the device since the network was last cleared, oldest first. -/
def addedRules (name : String) (operations : List Operation) : List AccessList.Rule :=
  (recent operations).filterMap (Operation.addedRule? name)

def rulesView : Device.View (List AccessList.Rule) where
  see := Device.rules
  start := []
  see_blank _ _ _ := rfl
  see_forget _ := rfl

theorem addRule_of_device {name : String} {d : Device} (hd : net.device name = .ok d)
    (number : UInt32) (action : AccessList.Action) (entry : AccessList.Entry) :
    (addRule name number action entry net).1 = .ok (d.nextRule number action entry) := by
  obtain ⟨id, hname, hdevice⟩ := (device_ok_iff net name d).1 hd
  rw [addRule, edit_ok hname hdevice rfl]
  rfl

theorem Operation.addedRule?_eq_none {name : String} {operation : Operation}
    (h : ∀ number action entry, operation = .addRule name number action entry →
      ¬ operation.Accepted net) :
    Operation.addedRule? name (operation, net) = none := by
  cases operation with
  | addRule device number action entry =>
    rw [Operation.addedRule?]
    by_cases hname : device = name
    · subst hname
      rw [if_pos rfl]
      cases hresult : (Network.addRule device number action entry net).1 with
      | error e => rfl
      | ok rule =>
        refine absurd ?_ (h number action entry rfl)
        rw [Operation.Accepted, Operation.change, Change.forget, hresult]
        rfl
    · exact if_neg hname
  | _ => rfl

/-- The rules of a device are left, or the added rule comes after them with the next number. -/
theorem seen_rules_step (h : net.skeleton.Coherent) (name : String) {operation : Operation}
    (hkept : operation ≠ .clear) :
    (Operation.addedRule? name (operation, net) = none ∧
        (operation.step net).seen rulesView name = net.seen rulesView name) ∨
      ∃ rule, Operation.addedRule? name (operation, net) = some rule ∧
        rule.sequence = AccessList.nextSequence rule.number (net.seen rulesView name) ∧
        (operation.step net).seen rulesView name = net.seen rulesView name ++ [rule] := by
  obtain ⟨hclear, _⟩ | ⟨setting, d, hsetting, _, hd, hnew⟩ | ⟨_, hnot, hseen⟩ :=
    seen_step_cases h rulesView name operation
  · exact absurd hclear hkept
  · rw [seen_of_device rulesView hnew, seen_of_device rulesView hd]
    cases operation with
    | addRule device number action entry =>
      cases hsetting
      refine .inr ⟨d.nextRule number action entry, ?_, rfl, rfl⟩
      rw [Operation.addedRule?, if_pos rfl, addRule_of_device hd]
      rfl
    | setInterface | setHostname | addStatement =>
      cases hsetting
      exact .inl ⟨rfl, rfl⟩
    | addDevice | addLink | clearCli | clear => cases hsetting
  · refine .inl ⟨Operation.addedRule?_eq_none ?_, hseen⟩
    rintro number action entry rfl
    exact hnot _ rfl

theorem seen_rules (name : String) (operations : List Operation) :
    (run operations empty).seen rulesView name = addedRules name operations ∧
      AccessList.InSequence ((run operations empty).seen rulesView name) := by
  refine recent_induction
    (P := fun net past =>
      net.seen rulesView name = past.filterMap (Operation.addedRule? name) ∧
        AccessList.InSequence (net.seen rulesView name))
    ?_ (fun operation net past h hkept hpast => ?_) operations
  · rw [seen_empty]
    exact ⟨rfl, AccessList.inSequence_nil⟩
  · rw [List.filterMap_append, ← hpast.1]
    obtain ⟨hnone, hseen⟩ | ⟨rule, hrule, hsequence, hseen⟩ := seen_rules_step h name hkept
    · rw [hseen, List.filterMap_cons_none hnone, List.filterMap_nil, List.append_nil]
      exact ⟨rfl, hpast.2⟩
    · rw [hseen, List.filterMap_cons_some hrule, List.filterMap_nil]
      exact ⟨rfl, hpast.2.concat hsequence⟩

/-- Adding a rule leaves the lists of other devices, and on the same device those of other numbers. -/
theorem rules_addRule (h : net.skeleton.Coherent) {name : String} {d : Device}
    (hd : net.device name = .ok d) (other : String) (number : UInt32) (action : AccessList.Action)
    (entry : AccessList.Entry) :
    ∃ e, (addRule other number action entry net).2.device name = .ok e ∧
      ∀ list, other ≠ name ∨ list ≠ number →
        AccessList.ofNumber list e.rules = AccessList.ofNumber list d.rules := by
  have hsetting : (Operation.addRule other number action entry).setting? =
      some (other, .rule number action entry) := rfl
  obtain ⟨_, hsame⟩ | ⟨⟨rfl, _⟩, old, hold, hnew⟩ := device_setting h hsetting name
  · exact ⟨d, hsame.trans hd, fun _ _ => rfl⟩
  · obtain rfl := Except.ok.inj (hd.symm.trans hold)
    refine ⟨_, hnew, fun list hlist => ?_⟩
    have hother : number ≠ list := fun hsame => hlist.elim (absurd rfl) (absurd hsame.symm)
    exact (AccessList.ofNumber_concat list d.rules _).trans (if_neg hother)

/-- The rules of a device are those that were added to it since the network was last cleared. Each list
counts its own in steps of ten, as long as the numbers fit in 32 bits, and what is added to one list
leaves the others. -/
theorem rules_numbered {operations : List Operation} {name : String} {d : Device}
    (hd : (run operations empty).device name = .ok d) :
    let net := run operations empty
    let list := fun number => AccessList.ofNumber number d.rules
    d.rules = addedRules name operations ∧
      (∀ number, list number = (addedRules name operations).filter (·.number = number)) ∧
      (∀ number, (list number).length ≤ 429496729 →
        (list number).map (·.sequence.toNat) =
          (List.range (list number).length).map fun k => 10 * (k + 1)) ∧
      (∀ number, 10 * ((list number).length + 1) < UInt32.size →
        (AccessList.nextSequence number d.rules).toNat = 10 * ((list number).length + 1)) ∧
      (d.rules.Pairwise fun x y => (list x.number).length ≤ 429496729 →
        x.number = y.number → x.sequence ≠ y.sequence) ∧
      (∀ number action entry, (addRule name number action entry net).1 =
        .ok ⟨number, AccessList.nextSequence number d.rules, action, entry⟩) ∧
      ∀ other number action entry,
        ∃ e, (addRule other number action entry net).2.device name = .ok e ∧
          ∀ n, other ≠ name ∨ n ≠ number →
            AccessList.ofNumber n e.rules = list n ∧
              AccessList.nextSequence n e.rules = AccessList.nextSequence n d.rules := by
  intro net list
  obtain ⟨hrules, hsequence⟩ := seen_rules name operations
  rw [seen_of_device rulesView hd] at hrules hsequence
  change d.rules = _ at hrules
  change AccessList.InSequence d.rules at hsequence
  refine ⟨hrules, fun number => ?_, hsequence, fun number hfits => ?_, hsequence.pairwise,
    addRule_of_device hd, fun other number action entry => ?_⟩
  · rw [← hrules]
    rfl
  · have hbound : (list number).length ≤ 429496729 := by
      rw [UInt32.size] at hfits
      omega
    exact AccessList.toNat_nextSequence (hsequence number hbound) hfits
  · obtain ⟨e, he, hlists⟩ := rules_addRule (coherent_run operations) hd other number action entry
    exact ⟨e, he, fun n hn => ⟨hlists n hn, AccessList.nextSequence_congr (hlists n hn)⟩⟩

/-- Two lists of a router that take turns, between rules of a switch, a refused rule and a cleared
log. -/
theorem rules_numbered_interleaved :
    let x : Address := .ofOctets 10 0 0 0
    let wildcard : Address := .ofOctets 0 0 0 255
    let standard : AccessList.Entry := .standard x wildcard
    let extended : AccessList.Entry := .extended .tcp x wildcard x wildcard
    let operations : List Operation :=
      [.addDevice "r1" .router, .addDevice "sw" .switch, .addRule "r1" 10 .permit standard,
        .addRule "r1" 101 .deny extended, .addRule "sw" 10 .permit standard,
        .addRule "r2" 10 .permit standard, .addRule "r1" 10 .deny standard, .clearCli,
        .addRule "r1" 101 .permit extended, .addRule "r1" 10 .permit standard]
    ∃ d, (run operations empty).device "r1" = .ok d ∧
      d.rules.map (fun rule => (rule.number, rule.sequence)) =
        [(10, 10), (101, 10), (10, 20), (101, 20), (10, 30)] ∧
      (AccessList.nextSequence 10 d.rules).toNat = 40 := by
  intro x wildcard standard extended operations
  obtain ⟨d, hd⟩ := (hasDevice_iff_device (coherent_run operations) "r1").1 (by decide +kernel)
  obtain ⟨hrules, _, _, hnext, _⟩ := rules_numbered hd
  have hadded : (addedRules "r1" operations).map (fun rule => (rule.number, rule.sequence)) =
      [(10, 10), (101, 10), (10, 20), (101, 20), (10, 30)] := by decide +kernel
  have hcount : (AccessList.ofNumber 10 d.rules).length = 3 := by
    rw [hrules]
    decide +kernel
  have hten := hnext 10 (by rw [hcount]; decide)
  rw [hcount] at hten
  exact ⟨d, hd, by rw [hrules, hadded], hten⟩

end Network
end NetworkConsole

import Mathlib.Data.List.Nodup
import Mathlib.Data.List.Perm.Subperm
import Mathlib.Data.List.Pairwise
import Mathlib.Data.List.TakeWhile
import TreeQuery.LabelTable
import TreeQuery.Proofs.Text.Numeral

set_option autoImplicit false

/-! # Labels do not clash by accident

A number whose generated label is free is always found: the labels of as many numbers as there are
taken labels, and of one more, cannot all be taken (`generatedName_freeNumber_not_mem`). The numbers
run upwards, so two generated labels differ as well. Hence two nodes with the same label have both
been given it by the user (`own_of_name?_eq`), whatever the stem is. -/

namespace TreeQuery

/-- A node carries a name as a label of its own. -/
def Graph.HasOwnLabel (g : Graph) (id : NodeId) (name : String) : Prop :=
  ∃ node, g.nodes.get? id = some node ∧ node.hasLabel = true ∧ node.label = name

namespace LabelTable

variable {taken : List String} {stem : String}

/-! ## Free numbers -/

theorem generatedName_inj {a b : Nat} : generatedName stem a = generatedName stem b ↔ a = b := by
  rw [generatedName, generatedName, String.append_right_inj]
  refine ⟨fun h => ?_, fun h => by rw [h]⟩
  rw [← Text.ofDigitChars_toString a, h, Text.ofDigitChars_toString]

theorem le_freeNumber (taken : List String) (stem : String) (start : Nat) :
    start ≤ freeNumber taken stem start :=
  Nat.le_add_right _ _

/-- The labels of more numbers than there are taken labels are not all taken. -/
theorem length_le_of_generated {numbers : List Nat} (hnodup : numbers.Nodup)
    (h : ∀ n ∈ numbers, generatedName stem n ∈ taken) : numbers.length ≤ taken.length := by
  have hnames : (numbers.map (generatedName stem)).Nodup :=
    hnodup.map fun a b hab => generatedName_inj.1 hab
  have hsub : numbers.map (generatedName stem) ⊆ taken := by
    intro name hname
    obtain ⟨n, hn, rfl⟩ := List.mem_map.1 hname
    exact h n hn
  simpa using (List.subperm_of_subset hnames hsub).length_le

theorem generatedName_freeNumber_not_mem (taken : List String) (stem : String) (start : Nat) :
    generatedName stem (freeNumber taken stem start) ∉ taken := by
  intro hmem
  -- The numbers that are passed over are the first `count` ones.
  obtain ⟨count, hcount, htake, hdrop⟩ := List.range'_eq_append_iff.1
    (List.takeWhile_append_dropWhile
      (p := fun n => generatedName stem n ∈ taken) (l := List.range' start taken.length)).symm
  have hfree : freeNumber taken stem start = start + count := by
    rw [freeNumber, htake, List.length_range']
  rw [hfree] at hmem
  have htaken : ∀ n ∈ List.range' start count, generatedName stem n ∈ taken := by
    intro n hn
    rw [← htake] at hn
    simpa using List.mem_takeWhile_imp hn
  rcases Nat.lt_or_ge count taken.length with hlt | hge
  · have hne : List.dropWhile (fun n => generatedName stem n ∈ taken)
        (List.range' start taken.length) ≠ [] := by
      rw [hdrop]
      simpa using Nat.sub_ne_zero_of_lt hlt
    have hhead := List.head_dropWhile_not _ hne
    simp only [hdrop, List.head_range', Nat.mul_one] at hhead
    simp [hmem] at hhead
  · -- All numbers that were tried are taken, and so is the next one.
    obtain rfl : count = taken.length := Nat.le_antisymm hcount hge
    have hall : ∀ n ∈ List.range' start (taken.length + 1), generatedName stem n ∈ taken := by
      intro n hn
      rw [List.range'_concat, List.mem_append, List.mem_singleton, Nat.one_mul] at hn
      rcases hn with hn | rfl
      · exact htaken n hn
      · exact hmem
    have hlength := length_le_of_generated (List.nodup_range' 1) hall
    rw [List.length_range'] at hlength
    exact Nat.not_succ_le_self _ hlength

/-! ## The labels of a list of nodes -/

/-- What label a node can get when the numbers below `start` have been tried: its own if it has
one, otherwise a generated one that is free. -/
inductive Fits (taken : List String) (stem : String) (start : Nat) (node : Node) : Label → Prop
  | own (h : node.hasLabel = true) : Fits taken stem start node ⟨node.label, false⟩
  | generated {number : Nat} (h : node.hasLabel = false) (hstart : start ≤ number)
      (hfree : generatedName stem number ∉ taken) :
      Fits taken stem start node ⟨generatedName stem number, true⟩

theorem Fits.mono {start start' : Nat} {node : Node} {l : Label} (hle : start' ≤ start)
    (h : Fits taken stem start node l) : Fits taken stem start' node l := by
  cases h with
  | own h => exact .own h
  | generated h hstart hfree => exact .generated h (Nat.le_trans hle hstart) hfree

theorem fits_of_mem_label {start : Nat} {nodes : List (NodeId × Node)} {id : NodeId} {l : Label}
    (h : (id, l) ∈ label taken stem start nodes) :
    ∃ node, (id, node) ∈ nodes ∧ Fits taken stem start node l := by
  induction nodes generalizing start with
  | nil => exact absurd h (by simp [label])
  | cons n rest ih =>
      obtain ⟨id', node⟩ := n
      rw [label] at h
      split at h
      · next hown =>
        rcases List.mem_cons.1 h with heq | h
        · obtain ⟨rfl, rfl⟩ := Prod.mk.inj heq
          exact ⟨node, List.mem_cons_self .., .own hown⟩
        · obtain ⟨node', hmem, hfits⟩ := ih h
          exact ⟨node', List.mem_cons_of_mem _ hmem, hfits⟩
      · next hown =>
        have hle := le_freeNumber taken stem start
        rcases List.mem_cons.1 h with heq | h
        · obtain ⟨rfl, rfl⟩ := Prod.mk.inj heq
          exact ⟨node, List.mem_cons_self .., .generated (by simpa using hown) hle
            (generatedName_freeNumber_not_mem taken stem start)⟩
        · obtain ⟨node', hmem, hfits⟩ := ih h
          exact ⟨node', List.mem_cons_of_mem _ hmem, hfits.mono (Nat.le_succ_of_le hle)⟩

/-- The numbers of generated labels run upwards. -/
theorem pairwise_label (taken : List String) (stem : String) (start : Nat)
    (nodes : List (NodeId × Node)) :
    (label taken stem start nodes).Pairwise fun a b =>
      a.2.generated = true → b.2.generated = true → a.2.name ≠ b.2.name := by
  induction nodes generalizing start with
  | nil => exact .nil
  | cons n rest ih =>
      obtain ⟨id, node⟩ := n
      rw [label]
      split
      · exact .cons (fun b _ hgenerated => absurd hgenerated (by simp)) (ih start)
      · refine .cons (fun b hb _ hgenerated hname => ?_) (ih _)
        obtain ⟨id', l⟩ := b
        obtain ⟨node', -, hfits⟩ := fits_of_mem_label hb
        cases hfits with
        | own h => exact absurd hgenerated (by simp)
        | generated h hstart hfree =>
            have hnumber := generatedName_inj.1 hname
            omega

/-! ## The label table of a graph -/

variable {g : Graph}

/-- Every node that is there has a label, and it fits. -/
theorem exists_get?_assign (stem : String) {id : NodeId} {node : Node}
    (hn : g.nodes.get? id = some node) :
    ∃ l, (assign g stem).get? id = some l ∧ Fits (userLabels g) stem 0 node l := by
  have hkeys : id ∈ (assign g stem).keys := by
    have hid := OrderedMap.mem_keys_iff.2 ⟨node, hn⟩
    rwa [OrderedMap.keys, ← map_fst_label (userLabels g) stem 0] at hid
  obtain ⟨l, hl⟩ := OrderedMap.mem_keys_iff.1 hkeys
  obtain ⟨node', hmem, hfits⟩ := fits_of_mem_label (OrderedMap.get?_eq_some_iff.1 hl)
  obtain rfl : node' = node :=
    Option.some.inj ((OrderedMap.get?_eq_some_iff.2 hmem).symm.trans hn)
  exact ⟨l, hl, hfits⟩

theorem keys_assign (g : Graph) (stem : String) : (assign g stem).keys = g.nodes.keys :=
  map_fst_label _ _ _ _

theorem exists_name?_assign (stem : String) {id : NodeId} (hid : id ∈ g.nodes.keys) :
    ∃ name, (assign g stem).name? id = some name := by
  obtain ⟨node, hn⟩ := OrderedMap.mem_keys_iff.1 hid
  obtain ⟨l, hl, -⟩ := exists_get?_assign stem hn
  exact ⟨l.name, by rw [name?, hl, Option.map_some]⟩

variable {id u v : NodeId} {name : String}

theorem mem_userLabels (h : g.HasOwnLabel id name) : name ∈ userLabels g := by
  obtain ⟨node, hn, hown, rfl⟩ := h
  exact List.mem_map.2
    ⟨(id, node), List.mem_filter.2 ⟨OrderedMap.get?_eq_some_iff.1 hn, hown⟩, rfl⟩

theorem get?_assign_of_own (h : g.HasOwnLabel id name) :
    (assign g stem).get? id = some ⟨name, false⟩ := by
  obtain ⟨node, hn, hown, rfl⟩ := h
  obtain ⟨l, hl, hfits⟩ := exists_get?_assign stem hn
  cases hfits with
  | own h => exact hl
  | generated h hstart hfree => exact absurd hown (by simp [h])

theorem name?_assign_of_hasLabel {node : Node} (hn : g.nodes.get? id = some node)
    (hown : node.hasLabel = true) : (assign g stem).name? id = some node.label := by
  rw [name?, get?_assign_of_own ⟨node, hn, hown, rfl⟩, Option.map_some]

/-- Exactly the nodes without a label of their own have a generated one. -/
theorem isGenerated_assign (stem : String) {node : Node} (hn : g.nodes.get? id = some node) :
    (assign g stem).isGenerated id = !node.hasLabel := by
  obtain ⟨l, hl, hfits⟩ := exists_get?_assign stem hn
  cases hfits with
  | own hown => rw [isGenerated, hl, Option.any_some, hown]; rfl
  | generated hown hstart hfree => rw [isGenerated, hl, Option.any_some, hown]; rfl

/-- The name of a node is its own, or it is generated and nobody's own. -/
theorem own_or_generated (h : (assign g stem).name? id = some name) :
    g.HasOwnLabel id name ∨ (assign g stem).get? id = some ⟨name, true⟩ ∧ name ∉ userLabels g := by
  obtain ⟨l, hl, rfl⟩ := Option.map_eq_some_iff.1 h
  have hid := OrderedMap.mem_keys_iff.2 ⟨l, hl⟩
  rw [keys_assign] at hid
  obtain ⟨node, hn⟩ := OrderedMap.mem_keys_iff.1 hid
  obtain ⟨_, heq, hfits⟩ := exists_get?_assign stem hn
  obtain rfl := Option.some.inj (hl.symm.trans heq)
  cases hfits with
  | own hown => exact .inl ⟨node, hn, hown, rfl⟩
  | generated hown hstart hfree => exact .inr ⟨hl, hfree⟩

/-- Different nodes do not both have generated labels of one name. -/
theorem eq_of_generated (hu : (assign g stem).get? u = some ⟨name, true⟩)
    (hv : (assign g stem).get? v = some ⟨name, true⟩) : u = v := by
  have hsymm : Std.Symm fun a b : NodeId × Label =>
      a.2.generated = true → b.2.generated = true → a.2.name ≠ b.2.name :=
    ⟨fun _ _ h hb ha => (h ha hb).symm⟩
  have hpairwise := (pairwise_label (userLabels g) stem 0 g.nodes.entries).forall
    (OrderedMap.get?_eq_some_iff.1 hu) (OrderedMap.get?_eq_some_iff.1 hv)
  refine Classical.byContradiction fun hne => ?_
  exact hpairwise (fun heq => hne (congrArg Prod.fst heq)) rfl rfl rfl

/-- A name that two nodes carry is their own. -/
theorem own_of_name?_eq (hu : (assign g stem).name? u = some name)
    (hv : (assign g stem).name? v = some name) (hne : u ≠ v) : g.HasOwnLabel u name := by
  rcases own_or_generated hu with hown | ⟨hget, hfree⟩
  · exact hown
  · rcases own_or_generated hv with hown' | ⟨hget', -⟩
    · exact absurd (mem_userLabels hown') hfree
    · exact absurd (eq_of_generated hget hget') hne

end LabelTable

end TreeQuery

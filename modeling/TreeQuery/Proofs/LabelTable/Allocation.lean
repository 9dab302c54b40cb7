import Mathlib.Data.Nat.Nth
import Mathlib.Logic.Relation
import TreeQuery.Proofs.Graph.History
import TreeQuery.Proofs.LabelTable

set_option autoImplicit false

/-! # Which numbers generated labels get

The numbers whose labels are free are unbounded, so there is a first one, a second one, and so on.
The nodes without a label of their own get them in turn (`get?_assign_of_unlabelled`).

The numbers are found by counting up. `Allocation` is the state of that count, and `next?` is one
turn of it, which serves a node or passes over one number that is taken. The count comes to its end
with the label table (`Allocation.exists_served`). Each number below the counter has been given to a
node or is taken, so the counter stays within the number of nodes (`Allocation.counter_le`). -/

namespace TreeQuery

/-- A graph has handed out a handle for each of its nodes. -/
theorem Graph.WellFormed.size_nodes_le {g : Graph} (h : g.WellFormed) :
    g.nodes.size ≤ g.nextNode := by
  have hnodup : (g.nodes.keys.map NodeId.index).Nodup := by
    rw [List.nodup_iff_pairwise_ne, List.pairwise_map]
    exact h.nodes_ascend.imp Nat.ne_of_lt
  have hsub : g.nodes.keys.map NodeId.index ⊆ List.range g.nextNode := by
    intro n hn
    obtain ⟨id, hid, rfl⟩ := List.mem_map.1 hn
    exact List.mem_range.2 (h.nodes_issued id hid)
  have hle := (List.subperm_of_subset hnodup hsub).length_le
  rwa [List.length_map, OrderedMap.keys, List.length_map, List.length_range] at hle

namespace LabelTable

variable {taken : List String} {stem : String}

/-- Nobody has taken the stem followed by a number. -/
def Free (taken : List String) (stem : String) (n : Nat) : Prop := stem ++ toString n ∉ taken

instance (taken : List String) (stem : String) : DecidablePred (Free taken stem) := fun n =>
  inferInstanceAs (Decidable (stem ++ toString n ∉ taken))

/-! ## Free numbers -/

theorem exists_free (taken : List String) (stem : String) (n : Nat) :
    ∃ m, n ≤ m ∧ Free taken stem m :=
  ⟨freeNumber taken stem n, le_freeNumber taken stem n,
    generatedName_freeNumber_not_mem taken stem n⟩

/-- What is passed over on the way to a free number is taken. -/
theorem not_free_of_lt_freeNumber {start n : Nat} (hstart : start ≤ n)
    (hn : n < freeNumber taken stem start) : ¬ Free taken stem n := by
  obtain ⟨i, rfl⟩ := Nat.exists_eq_add_of_le hstart
  let passed := (List.range' start taken.length).takeWhile fun n => generatedName stem n ∈ taken
  have hi : i < passed.length := Nat.lt_of_add_lt_add_left hn
  have hget : passed[i] = start + i := by
    rw [(List.takeWhile_prefix _).getElem hi, List.getElem_range', Nat.one_mul]
  have htaken : generatedName stem passed[i] ∈ taken := by
    simpa using List.mem_takeWhile_imp (List.getElem_mem hi)
  rw [hget] at htaken
  exact fun hfree => hfree htaken

/-- On the way to a free number no other one is met. -/
theorem count_freeNumber (taken : List String) (stem : String) (start : Nat) :
    Nat.count (Free taken stem) (freeNumber taken stem start) =
      Nat.count (Free taken stem) start := by
  obtain ⟨d, hd⟩ := Nat.exists_eq_add_of_le (le_freeNumber taken stem start)
  have hnone : Nat.count (fun i => Free taken stem (start + i)) d = 0 :=
    Nat.count_of_forall_not fun i hi => not_free_of_lt_freeNumber (Nat.le_add_right ..) (by omega)
  rw [hd, Nat.count_add, hnone, Nat.add_zero]

/-- What is found from a number on is the first free number behind all free ones below it. -/
theorem freeNumber_eq_nth (taken : List String) (stem : String) (start : Nat) :
    freeNumber taken stem start =
      Nat.nth (Free taken stem) (Nat.count (Free taken stem) start) := by
  have hfree : Free taken stem (freeNumber taken stem start) :=
    generatedName_freeNumber_not_mem taken stem start
  rw [← count_freeNumber, Nat.nth_count hfree]

theorem count_succ_freeNumber (taken : List String) (stem : String) (start : Nat) :
    Nat.count (Free taken stem) (freeNumber taken stem start + 1) =
      Nat.count (Free taken stem) start + 1 := by
  have hfree : Free taken stem (freeNumber taken stem start) :=
    generatedName_freeNumber_not_mem taken stem start
  rw [Nat.count_succ, if_pos hfree, count_freeNumber]

/-- A number that is not free has a taken label to itself. -/
theorem le_count_free_add (taken : List String) (stem : String) (n : Nat) :
    n ≤ Nat.count (Free taken stem) n + taken.length := by
  have hsplit := (List.range n).length_eq_countP_add_countP fun i => decide (Free taken stem i)
  have htaken : ∀ i ∈ (List.range n).filter fun i => ¬ Free taken stem i,
      generatedName stem i ∈ taken := fun i hi => by
    simpa [Free, generatedName] using (List.mem_filter.1 hi).2
  have hlength := length_le_of_generated (List.nodup_range.filter _) htaken
  rw [List.length_range] at hsplit
  rw [← List.countP_eq_length_filter] at hlength
  simp only [Nat.count, Bool.not_eq_true, decide_eq_false_iff_not] at *
  omega

/-! ## The labels of a list of nodes -/

/-- The nodes without a label of their own, in order. -/
def unlabelled (nodes : List (NodeId × Node)) : List (NodeId × Node) :=
  nodes.filter fun e => !e.2.hasLabel

theorem unlabelled_cons_of_own {id : NodeId} {node : Node} (h : node.hasLabel = true)
    (rest : List (NodeId × Node)) : unlabelled ((id, node) :: rest) = unlabelled rest :=
  List.filter_cons_of_neg (by simp [h])

theorem unlabelled_cons_of_not_own {id : NodeId} {node : Node} (h : ¬ node.hasLabel = true)
    (rest : List (NodeId × Node)) :
    unlabelled ((id, node) :: rest) = (id, node) :: unlabelled rest :=
  List.filter_cons_of_pos (by simpa using h)

/-- The nodes without a label get the free numbers from the first one on that has not been
tried. -/
theorem mem_label_of_unlabelled {start k : Nat} {nodes : List (NodeId × Node)} {id : NodeId}
    {node : Node} (h : (unlabelled nodes)[k]? = some (id, node)) :
    (id, ⟨stem ++ toString (Nat.nth (Free taken stem) (Nat.count (Free taken stem) start + k)),
      true⟩) ∈ label taken stem start nodes := by
  induction nodes generalizing start k with
  | nil => exact absurd h (by simp [unlabelled])
  | cons n rest ih =>
      obtain ⟨id', node'⟩ := n
      rw [label]
      by_cases hown : node'.hasLabel = true
      · rw [unlabelled_cons_of_own hown] at h
        rw [if_pos hown]
        exact List.mem_cons_of_mem _ (ih h)
      · rw [unlabelled_cons_of_not_own hown] at h
        rw [if_neg hown]
        cases k with
        | zero =>
            obtain ⟨rfl, rfl⟩ := Prod.mk.inj (Option.some.inj h)
            rw [Nat.add_zero, ← freeNumber_eq_nth]
            exact List.mem_cons_self ..
        | succ k =>
            have hcount : Nat.count (Free taken stem) start + (k + 1) =
                Nat.count (Free taken stem) (freeNumber taken stem start + 1) + k := by
              rw [count_succ_freeNumber, Nat.add_right_comm, Nat.add_assoc]
            rw [hcount]
            exact List.mem_cons_of_mem _ (ih (by simpa using h))

/-- Counting up from a number that is taken is counting up from the next one. -/
theorem label_succ_of_not_free {start : Nat} (h : ¬ Free taken stem start)
    (nodes : List (NodeId × Node)) :
    label taken stem (start + 1) nodes = label taken stem start nodes := by
  have hnumber : freeNumber taken stem (start + 1) = freeNumber taken stem start := by
    rw [freeNumber_eq_nth, freeNumber_eq_nth, Nat.count_succ, if_neg h, Nat.add_zero]
  induction nodes with
  | nil => rfl
  | cons n rest ih =>
      obtain ⟨id, node⟩ := n
      simp only [label, hnumber, ih]

/-! ## Counting -/

/-- Labels that are being given: the nodes that wait for one, the number that is tried next, and
the labels given so far. -/
structure Allocation where
  pending : List (NodeId × Node)
  counter : Nat
  given : List (NodeId × Label)
  deriving DecidableEq, Repr

namespace Allocation

/-- One turn. A node with a label of its own keeps it. Otherwise the next number is tried: the node
gets it if it is free, and waits for another turn if it is taken. -/
def next? (taken : List String) (stem : String) : Allocation → Option Allocation
  | ⟨[], _, _⟩ => none
  | ⟨(id, node) :: rest, counter, given⟩ =>
    if node.hasLabel then some ⟨rest, counter, given ++ [(id, ⟨node.label, false⟩)]⟩
    else if generatedName stem counter ∈ taken then
      some ⟨(id, node) :: rest, counter + 1, given⟩
    else some ⟨rest, counter + 1, given ++ [(id, ⟨generatedName stem counter, true⟩)]⟩

/-- Turns lead from one state to another. -/
def Reaches (taken : List String) (stem : String) : Allocation → Allocation → Prop :=
  Relation.ReflTransGen fun a b => a.next? taken stem = some b

/-- Nothing has been given to the nodes of a graph yet. -/
def ofGraph (g : Graph) : Allocation := ⟨g.nodes.entries, 0, []⟩

/-- What stays the same from turn to turn: what has been given and what will be, and how many nodes
get a generated label. -/
structure Tracks (taken : List String) (stem : String) (nodes : List (NodeId × Node))
    (a : Allocation) : Prop where
  given_append : a.given ++ label taken stem a.counter a.pending = label taken stem 0 nodes
  count_add : Nat.count (Free taken stem) a.counter + (unlabelled a.pending).length =
    (unlabelled nodes).length

variable {nodes : List (NodeId × Node)} {a b : Allocation}

theorem Tracks.initial (taken : List String) (stem : String) (nodes : List (NodeId × Node)) :
    Tracks taken stem nodes ⟨nodes, 0, []⟩ where
  given_append := rfl
  count_add := by rw [Nat.count_zero, Nat.zero_add]

theorem Tracks.step (h : Tracks taken stem nodes a) (hnext : a.next? taken stem = some b) :
    Tracks taken stem nodes b := by
  obtain ⟨hgiven, hcount⟩ := h
  revert hnext hgiven hcount
  fun_cases Allocation.next? taken stem a with
  | case1 => simp
  | case2 id node rest counter given hown =>
      rintro ⟨rfl⟩ hgiven hcount
      refine ⟨?_, ?_⟩
      · rw [← hgiven, label, if_pos hown, List.append_assoc, List.singleton_append]
      · rwa [unlabelled_cons_of_own hown] at hcount
  | case3 id node rest counter given hown htaken =>
      rintro ⟨rfl⟩ hgiven hcount
      have hfree : ¬ Free taken stem counter := fun hfree => hfree htaken
      refine ⟨?_, ?_⟩
      · rw [← hgiven, label_succ_of_not_free hfree]
      · rwa [Nat.count_succ, if_neg hfree, Nat.add_zero]
  | case4 id node rest counter given hown hnot =>
      rintro ⟨rfl⟩ hgiven hcount
      have hfree : Free taken stem counter := hnot
      have hnumber : freeNumber taken stem counter = counter := by
        rw [freeNumber_eq_nth, Nat.nth_count hfree]
      refine ⟨?_, ?_⟩
      · rw [← hgiven, label, if_neg hown, hnumber, List.append_assoc, List.singleton_append]
      · rw [unlabelled_cons_of_not_own hown, List.length_cons] at hcount
        rw [Nat.count_succ, if_pos hfree, ← hcount, Nat.add_assoc, Nat.add_comm 1]

theorem Tracks.run (h : Tracks taken stem nodes a) (hrun : Reaches taken stem a b) :
    Tracks taken stem nodes b := by
  induction hrun with
  | refl => exact h
  | tail _ hnext ih => exact ih.step hnext

/-- While numbers are taken, the node that waits passes them over. -/
theorem reaches_freeNumber {id : NodeId} {node : Node} (hown : node.hasLabel = false)
    (rest : List (NodeId × Node)) (counter : Nat) (given : List (NodeId × Label)) :
    Reaches taken stem ⟨(id, node) :: rest, counter, given⟩
      ⟨(id, node) :: rest, freeNumber taken stem counter, given⟩ := by
  obtain ⟨d, hd⟩ := Nat.exists_eq_add_of_le (le_freeNumber taken stem counter)
  have hpass : ∀ i ≤ d, Reaches taken stem ⟨(id, node) :: rest, counter, given⟩
      ⟨(id, node) :: rest, counter + i, given⟩ := by
    intro i hi
    induction i with
    | zero => exact .refl
    | succ i ih =>
        have htaken : generatedName stem (counter + i) ∈ taken := Classical.not_not.1
          (not_free_of_lt_freeNumber (Nat.le_add_right counter i) (by omega))
        refine (ih (by omega)).tail ?_
        rw [next?, if_neg (by simp [hown]), if_pos htaken]
        rfl
  rw [hd]
  exact hpass d (Nat.le_refl d)

/-- The turns come to an end, and then every node has been served. -/
theorem exists_served (taken : List String) (stem : String) (pending : List (NodeId × Node))
    (counter : Nat) (given : List (NodeId × Label)) :
    ∃ last, Reaches taken stem ⟨pending, counter, given⟩ last ∧ last.pending = [] := by
  induction pending generalizing counter given with
  | nil => exact ⟨_, .refl, rfl⟩
  | cons n rest ih =>
      obtain ⟨id, node⟩ := n
      cases hown : node.hasLabel with
      | true =>
          obtain ⟨last, hlast, hserved⟩ := ih counter (given ++ [(id, ⟨node.label, false⟩)])
          refine ⟨last, .head ?_ hlast, hserved⟩
          rw [next?, if_pos hown]
      | false =>
          have hfree := generatedName_freeNumber_not_mem taken stem counter
          obtain ⟨last, hlast, hserved⟩ := ih (freeNumber taken stem counter + 1)
            (given ++ [(id, ⟨generatedName stem (freeNumber taken stem counter), true⟩)])
          refine ⟨last, (reaches_freeNumber hown rest counter given).trans (.head ?_ hlast),
            hserved⟩
          rw [next?, if_neg (by simp [hown]), if_neg hfree]

end Allocation

/-! ## The label table of a graph -/

variable {g : Graph}

/-- A node has a label of its own, or it gets a generated one. -/
theorem length_userLabels_add (g : Graph) :
    (userLabels g).length + (unlabelled g.nodes.entries).length = g.nodes.size := by
  have hsplit := g.nodes.entries.length_eq_length_filter_add fun e => e.2.hasLabel
  rw [userLabels, List.length_map, unlabelled, OrderedMap.size, hsplit]

/-- The counter stays within the number of nodes: a number below it has been given to a node that
has no label of its own, or some node has its label. -/
theorem Allocation.counter_le {a : Allocation} {stem : String}
    (h : Allocation.Reaches (userLabels g) stem (.ofGraph g) a) : a.counter ≤ g.nodes.size := by
  have hcount := ((Allocation.Tracks.initial (userLabels g) stem g.nodes.entries).run h).count_add
  have hle := le_count_free_add (userLabels g) stem a.counter
  have hsize := length_userLabels_add g
  omega

theorem get?_assign_of_unlabelled {k : Nat} {id : NodeId} {node : Node}
    (h : (unlabelled g.nodes.entries)[k]? = some (id, node)) :
    (assign g stem).get? id =
      some ⟨stem ++ toString (Nat.nth (Free (userLabels g) stem) k), true⟩ := by
  have hcount : Nat.count (Free (userLabels g) stem) 0 + k = k := by
    rw [Nat.count_zero, Nat.zero_add]
  rw [← hcount]
  exact OrderedMap.get?_eq_some_iff.2 (mem_label_of_unlabelled h)

/-- A label table that keeps the labels users have given, and numbers the other nodes. -/
structure Allocates (g : Graph) (stem : String) (t : LabelTable) : Prop where
  keys_eq : t.keys = g.nodes.keys
  own : ∀ id node, g.nodes.get? id = some node → node.hasLabel = true →
    t.get? id = some ⟨node.label, false⟩
  /-- There is a `k`-th free number for every `k`. -/
  exists_free : ∀ n, ∃ m, n ≤ m ∧ Free (userLabels g) stem m
  /-- Counted from zero, the `k`-th node without a label gets the `k`-th free number. -/
  generated : ∀ k id node, (unlabelled g.nodes.entries)[k]? = some (id, node) →
    t.get? id = some ⟨stem ++ toString (Nat.nth (Free (userLabels g) stem) k), true⟩
  nodup_generated : ((t.entries.filter fun e => e.2.generated).map fun e => e.2.name).Nodup
  generated_not_mem : ∀ id name, t.get? id = some ⟨name, true⟩ → name ∉ userLabels g

theorem nodup_generated_assign (g : Graph) (stem : String) :
    (((assign g stem).entries.filter fun e => e.2.generated).map fun e => e.2.name).Nodup := by
  rw [List.nodup_iff_pairwise_ne, List.pairwise_map, List.pairwise_filter]
  exact (pairwise_label (userLabels g) stem 0 g.nodes.entries).imp fun h ha hb => h ha hb

theorem allocates_assign (g : Graph) (stem : String) : (assign g stem).Allocates g stem where
  keys_eq := keys_assign g stem
  own := fun id node hn hown => get?_assign_of_own ⟨node, hn, hown, rfl⟩
  exists_free := exists_free (userLabels g) stem
  generated := fun _ _ _ h => get?_assign_of_unlabelled h
  nodup_generated := nodup_generated_assign g stem
  generated_not_mem := by
    intro id name h
    obtain ⟨node, -, hfits⟩ := fits_of_mem_label (OrderedMap.get?_eq_some_iff.1 h)
    cases hfits with
    | generated hown hstart hfree => exact hfree

/-- **Which labels nodes get.** A node keeps its own label, and the others get the free numbers in
turn. Counting up from zero finds them in finitely many turns, and never goes beyond the number of
nodes; so the counter stays below any bound that the handles of the nodes have kept to. -/
theorem assign_allocates (hg : g.Buildable) (stem : String) :
    (assign g stem).Allocates g stem ∧
    (∃ last, Allocation.Reaches (userLabels g) stem (.ofGraph g) last ∧ last.pending = [] ∧
      last.given = (assign g stem).entries) ∧
    ∀ a, Allocation.Reaches (userLabels g) stem (.ofGraph g) a →
      a.counter ≤ g.nodes.size ∧ (g.nextNode < UInt32.size → a.counter < UInt32.size) := by
  refine ⟨allocates_assign g stem, ?_, fun a ha => ⟨Allocation.counter_le ha, fun hnext => ?_⟩⟩
  · obtain ⟨last, hlast, hserved⟩ :=
      Allocation.exists_served (userLabels g) stem g.nodes.entries 0 []
    have hgiven := ((Allocation.Tracks.initial _ _ g.nodes.entries).run hlast).given_append
    rw [hserved, label, List.append_nil] at hgiven
    exact ⟨last, hlast, hserved, hgiven⟩
  · exact (Allocation.counter_le ha).trans_lt (hg.wellFormed.size_nodes_le.trans_lt hnext)

/-- Three nodes without a label, and between them two whose labels look like generated ones. -/
def interleaved : Graph :=
  .replay .empty [.createNode "a", .createNode "b", .createNode "c", .createNode "d",
    .createNode "e", .editNode ⟨1⟩ (.setLabel "x0"), .editNode ⟨3⟩ (.setLabel "x2")]

theorem assign_interleaved :
    ((assign interleaved "x").entries.map fun e => e.2.name) = ["x1", "x0", "x3", "x2", "x4"] ∧
    Nat.nth (Free (userLabels interleaved) "x") 2 = 4 ∧
    ∀ a, Allocation.Reaches (userLabels interleaved) "x" (.ofGraph interleaved) a →
      a.counter ≤ 5 := by
  have hinterleaved : interleaved.Buildable := ⟨_, rfl⟩
  obtain ⟨hallocates, -, hcounter⟩ := assign_allocates hinterleaved "x"
  refine ⟨by decide, ?_, fun a ha => (hcounter a ha).1⟩
  have hlast := hallocates.generated 2 ⟨4⟩ { pattern := "e" } (by decide)
  have hrun : (assign interleaved "x").get? ⟨4⟩ = some ⟨generatedName "x" 4, true⟩ := by decide
  exact generatedName_inj.1 (congrArg Label.name (Option.some.inj (hlast.symm.trans hrun)))

end LabelTable

end TreeQuery

import Mathlib.Data.List.Nodup
import TreeQuery.Query.Expr

set_option autoImplicit false

/-! # Places in expressions

A place in an expression is the list of the clause numbers on the way to it; one mention encloses
another if its place is a proper beginning of the other's. `Expr.nodes` lists the nodes that are
mentioned for the first time and `Expr.relations` the relations of the clauses, both in pre-order.
If no node is mentioned for the first time twice, a node determines the place where it is
(`place_eq_of_nodup`). -/

namespace TreeQuery.Expr

/-! ## Nodes and relations of an expression -/

/-- The node that is mentioned for the first time, if it is. -/
def defines? : Expr → Option NodeId
  | backRef _ _ => none
  | define node _ _ _ _ => some node

mutual

/-- The nodes whose first mentions stand in the expression. -/
def nodes : Expr → List NodeId
  | backRef _ _ => []
  | define node _ _ _ clauses => node :: nodesOf clauses

/-- The nodes whose first mentions stand in the targets of clauses. -/
def nodesOf : List (Clause Expr) → List NodeId
  | [] => []
  | ⟨_, _, target⟩ :: rest => nodes target ++ nodesOf rest

end

mutual

/-- The relations of the clauses. -/
def relations : Expr → List RelationId
  | backRef _ _ => []
  | define _ _ _ _ clauses => relationsOf clauses

/-- The relations of a list of clauses and of those in their targets. -/
def relationsOf : List (Clause Expr) → List RelationId
  | [] => []
  | ⟨relation, _, target⟩ :: rest => relation :: (relations target ++ relationsOf rest)

end

theorem nodesOf_eq_flatMap (cs : List (Clause Expr)) :
    nodesOf cs = cs.flatMap fun c => c.target.nodes := by
  induction cs with
  | nil => rfl
  | cons c cs ih => rw [nodesOf, List.flatMap_cons, ih]

theorem mem_nodesOf {cs : List (Clause Expr)} {v : NodeId} :
    v ∈ nodesOf cs ↔ ∃ c ∈ cs, v ∈ c.target.nodes := by
  rw [nodesOf_eq_flatMap, List.mem_flatMap]

/-! ## Counting -/

mutual

theorem length_definitions : (e : Expr) → e.definitions.length = e.nodes.length
  | backRef _ _ => rfl
  | define _ _ _ _ clauses => by
      rw [definitions, nodes, List.length_cons, List.length_cons, length_definitionsOf clauses]

theorem length_definitionsOf :
    (cs : List (Clause Expr)) → (definitionsOf cs).length = (nodesOf cs).length
  | [] => rfl
  | ⟨_, _, target⟩ :: rest => by
      rw [definitionsOf, nodesOf, List.length_append, List.length_append,
        length_definitions target, length_definitionsOf rest]

end

mutual

theorem clauseCount_eq : (e : Expr) → e.clauseCount = e.relations.length
  | backRef _ _ => rfl
  | define _ _ _ _ clauses => clauseCountOf_eq clauses

theorem clauseCountOf_eq :
    (cs : List (Clause Expr)) → clauseCountOf cs = (relationsOf cs).length
  | [] => rfl
  | ⟨_, _, target⟩ :: rest => by
      rw [clauseCountOf, relationsOf, List.length_cons, List.length_append, clauseCount_eq target,
        clauseCountOf_eq rest]
      omega

end

mutual

/-- Every mention but the root is the target of a clause. -/
theorem length_mentions : (e : Expr) →
    e.definitions.length + e.backReferences.length = e.clauseCount + 1
  | backRef _ _ => rfl
  | define _ _ _ _ clauses => by
      have hclauses := length_mentionsOf clauses
      rw [definitions, backReferences, clauseCount, List.length_cons]
      omega

theorem length_mentionsOf : (cs : List (Clause Expr)) →
    (definitionsOf cs).length + (backReferencesOf cs).length = clauseCountOf cs
  | [] => rfl
  | ⟨_, _, target⟩ :: rest => by
      have htarget := length_mentions target
      have hrest := length_mentionsOf rest
      rw [definitionsOf, backReferencesOf, clauseCountOf, List.length_append, List.length_append]
      omega

end

/-! ## Places -/

/-- The mention at a place. -/
def at? : Expr → List Nat → Option Expr
  | e, [] => some e
  | backRef _ _, _ :: _ => none
  | define _ _ _ _ clauses, i :: place => (clauses[i]?).bind fun c => c.target.at? place

/-- A place in what stands at a place. -/
theorem at?_append (e : Expr) (place place' : List Nat) :
    e.at? (place ++ place') = (e.at? place).bind (·.at? place') := by
  induction place generalizing e with
  | nil => rfl
  | cons i place ih =>
      cases e with
      | backRef node label => rfl
      | define node pattern groups label clauses =>
          rw [List.cons_append, at?, at?, Option.bind_assoc]
          simp only [ih]

theorem defines?_eq_some_iff {e : Expr} {v : NodeId} : e.defines? = some v ↔
    ∃ pattern groups label clauses, e = .define v pattern groups label clauses := by
  cases e with
  | backRef node label => simp [defines?]
  | define node pattern groups label clauses =>
      simp only [defines?, Option.some.injEq, define.injEq]
      exact ⟨fun h => ⟨pattern, groups, label, clauses, h, rfl, rfl, rfl, rfl⟩,
        fun ⟨_, _, _, _, h, _⟩ => h⟩

theorem node_of_defines? {d : Expr} {v : NodeId} (h : d.defines? = some v) : d.node = v := by
  obtain ⟨pattern, groups, label, clauses, rfl⟩ := defines?_eq_some_iff.1 h
  rfl

/-- The target of a clause stands one step behind the mention that owns the clause. -/
theorem exists_at?_target {node : NodeId} {pattern label : String} {groups : List (Nat × String)}
    {clauses : List (Clause Expr)} {c : Clause Expr} (hc : c ∈ clauses) :
    ∃ i, (define node pattern groups label clauses).at? [i] = some c.target := by
  obtain ⟨i, hi⟩ := List.getElem?_of_mem hc
  exact ⟨i, by rw [at?, hi, Option.bind_some, at?]⟩

/-- What stands at a place behind the root stands in the target of a clause of the root. -/
theorem at?_cons_eq_some_iff {e d : Expr} {i : Nat} {place : List Nat} :
    e.at? (i :: place) = some d ↔ ∃ node pattern groups label clauses c,
      e = .define node pattern groups label clauses ∧ clauses[i]? = some c ∧
        c.target.at? place = some d := by
  cases e with
  | backRef node label => simp [at?]
  | define node pattern groups label clauses =>
      simp only [at?, Option.bind_eq_some_iff, define.injEq]
      constructor
      · rintro ⟨c, hc, hd⟩
        exact ⟨node, pattern, groups, label, clauses, c, ⟨rfl, rfl, rfl, rfl, rfl⟩, hc, hd⟩
      · rintro ⟨_, _, _, _, _, c, ⟨-, -, -, -, rfl⟩, hc, hd⟩
        exact ⟨c, hc, hd⟩

/-- What stands at the place of a clause stands in the target of the clause. -/
theorem at?_concat_eq_some_iff {e d : Expr} {i : Nat} {place : List Nat} :
    e.at? (place ++ [i]) = some d ↔ ∃ node pattern groups label clauses c,
      e.at? place = some (.define node pattern groups label clauses) ∧ clauses[i]? = some c ∧
        c.target = d := by
  induction place generalizing e with
  | nil => simp [at?_cons_eq_some_iff, at?]
  | cons j place ih =>
      rw [List.cons_append, at?_cons_eq_some_iff]
      constructor
      · rintro ⟨node, pattern, groups, label, clauses, c, rfl, hc, hd⟩
        rw [at?, hc]
        exact ih.1 hd
      · rintro ⟨node, pattern, groups, label, clauses, c, hplace, hc, hd⟩
        obtain ⟨node', pattern', groups', label', clauses', c', rfl, hc', hplace⟩ :=
          at?_cons_eq_some_iff.1 hplace
        exact ⟨node', pattern', groups', label', clauses', c', rfl, hc',
          ih.2 ⟨node, pattern, groups, label, clauses, c, hplace, hc, hd⟩⟩

/-- The first mention of a node encloses a place. -/
def Encloses (e : Expr) (place : List Nat) (v : NodeId) : Prop :=
  ∃ above d, above <+: place ∧ above ≠ place ∧ e.at? above = some d ∧ d.defines? = some v

section Encloses

variable {node : NodeId} {pattern label : String} {groups : List (Nat × String)}
  {clauses : List (Clause Expr)} {i : Nat} {place : List Nat}

/-- The root encloses all other places. -/
theorem encloses_root :
    (define node pattern groups label clauses).Encloses (i :: place) node :=
  ⟨[], _, List.nil_prefix, (List.cons_ne_nil _ _).symm, rfl, rfl⟩

theorem encloses_of_target {c : Clause Expr} {v : NodeId} (hc : clauses[i]? = some c)
    (h : c.target.Encloses place v) :
    (define node pattern groups label clauses).Encloses (i :: place) v := by
  obtain ⟨above, d, hprefix, hne, hd, hv⟩ := h
  refine ⟨i :: above, d, List.cons_prefix_cons.2 ⟨rfl, hprefix⟩, ?_, ?_, hv⟩
  · exact fun heq => hne (List.cons.inj heq).2
  · rw [at?, hc]
    exact hd

end Encloses

theorem mem_nodes_of_at? {e d : Expr} {place : List Nat} {v : NodeId}
    (hd : e.at? place = some d) (hv : d.defines? = some v) : v ∈ e.nodes := by
  induction place generalizing e with
  | nil =>
      obtain rfl : e = d := Option.some.inj hd
      obtain ⟨pattern, groups, label, clauses, rfl⟩ := defines?_eq_some_iff.1 hv
      exact List.mem_cons_self ..
  | cons i place ih =>
      obtain ⟨node, pattern, groups, label, clauses, c, rfl, hc, hd⟩ := at?_cons_eq_some_iff.1 hd
      exact List.mem_cons_of_mem _ (mem_nodesOf.2 ⟨c, List.mem_of_getElem? hc, ih hd⟩)

/-- A node that is mentioned for the first time only once is so in the target of one clause. -/
theorem index_eq_of_nodup {cs : List (Clause Expr)} (h : (nodesOf cs).Nodup) {i j : Nat}
    {c c' : Clause Expr} (hi : cs[i]? = some c) (hj : cs[j]? = some c') {v : NodeId}
    (hv : v ∈ c.target.nodes) (hv' : v ∈ c'.target.nodes) : i = j := by
  rw [nodesOf_eq_flatMap, List.nodup_flatMap] at h
  have hdisjoint := List.pairwise_iff_getElem.1 h.2
  obtain ⟨hilt, rfl⟩ := List.getElem?_eq_some_iff.1 hi
  obtain ⟨hjlt, rfl⟩ := List.getElem?_eq_some_iff.1 hj
  rcases Nat.lt_trichotomy i j with hlt | heq | hgt
  · exact absurd hv' (hdisjoint i j hilt hjlt hlt hv)
  · exact heq
  · exact absurd hv (hdisjoint j i hjlt hilt hgt hv')

/-- A node has one first mention at most. -/
theorem place_eq_of_nodup {e d d' : Expr} {place place' : List Nat} {v : NodeId}
    (h : e.nodes.Nodup) (hd : e.at? place = some d) (hv : d.defines? = some v)
    (hd' : e.at? place' = some d') (hv' : d'.defines? = some v) : place = place' := by
  induction place generalizing e place' with
  | nil =>
      obtain rfl : e = d := Option.some.inj hd
      cases place' with
      | nil => rfl
      | cons j place' =>
          obtain ⟨node, pattern, groups, label, clauses, c, rfl, hc, hd'⟩ :=
            at?_cons_eq_some_iff.1 hd'
          obtain rfl : node = v := Option.some.inj hv
          have hm := mem_nodesOf.2 ⟨c, List.mem_of_getElem? hc, mem_nodes_of_at? hd' hv'⟩
          exact absurd hm (List.nodup_cons.1 h).1
  | cons i place ih =>
      obtain ⟨node, pattern, groups, label, clauses, c, rfl, hc, hd⟩ := at?_cons_eq_some_iff.1 hd
      have hm := mem_nodes_of_at? hd hv
      cases place' with
      | nil =>
          obtain rfl := Option.some.inj hd'
          obtain rfl : node = v := Option.some.inj hv'
          exact absurd (mem_nodesOf.2 ⟨c, List.mem_of_getElem? hc, hm⟩) (List.nodup_cons.1 h).1
      | cons j place' =>
          obtain ⟨_, _, _, _, _, c', heq, hc', hd'⟩ := at?_cons_eq_some_iff.1 hd'
          obtain ⟨-, -, -, -, rfl⟩ := define.inj heq
          have hnodup := (List.nodup_cons.1 h).2
          obtain rfl := index_eq_of_nodup hnodup hc hc' hm (mem_nodes_of_at? hd' hv')
          obtain rfl : c = c' := Option.some.inj (hc.symm.trans hc')
          rw [nodesOf_eq_flatMap, List.nodup_flatMap] at hnodup
          rw [ih (hnodup.1 c (List.mem_of_getElem? hc)) hd hd']

end TreeQuery.Expr

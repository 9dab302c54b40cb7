import Mathlib.Data.List.Nodup
import Mathlib.Data.Set.Function
import TreeQuery.Proofs.Query.Decoding

set_option autoImplicit false

/-! # Expressions that differ in handles only

If two expressions are the same without their handles, then the first mentions of one stand where
those of the other stand, and so do the clauses. As every node and every relation stands at one
place only, this pairs the nodes and the relations of the two expressions off
(`Expr.exists_nodes_bijOn`, `Expr.exists_relations_bijOn`). -/

namespace TreeQuery

/-! ## Pairing lists off -/

section Lists

variable {α β γ κ ι : Type}

/-- Distinct things can be sent to any list of the same length. -/
theorem exists_map_eq [DecidableEq κ] [Inhabited ι] {keys : List κ} {keys' : List ι}
    (h : keys.Nodup) (hlength : keys.length = keys'.length) : ∃ f : κ → ι, keys.map f = keys' := by
  induction keys generalizing keys' with
  | nil => exact ⟨fun _ => default, (List.length_eq_zero_iff.1 hlength.symm).symm⟩
  | cons k keys ih =>
      obtain ⟨hk, hkeys⟩ := List.nodup_cons.1 h
      obtain ⟨k', keys', rfl⟩ := List.exists_cons_of_length_eq_add_one hlength.symm
      obtain ⟨f, rfl⟩ := ih hkeys (Nat.succ.inj hlength)
      refine ⟨fun x => if x = k then k' else f x, ?_⟩
      rw [List.map_cons, if_pos rfl]
      refine congrArg _ (List.map_congr_left fun x hx => if_neg ?_)
      rintro rfl
      exact hk hx

theorem bijOn_of_nodup_map {f : κ → ι} {keys : List κ} (h : (keys.map f).Nodup) :
    Set.BijOn f {k | k ∈ keys} {k | k ∈ keys.map f} := by
  refine ⟨fun k hk => List.mem_map_of_mem hk, fun k hk k' hk' heq => ?_, fun k hk => ?_⟩
  · exact List.inj_on_of_nodup_map h hk hk' heq
  · exact List.mem_map.1 hk

/-- Two lists that look the same in two ways have members that look the same in both. -/
theorem exists_mem_of_map_eq {l : List α} {l' : List β} {p : α → γ} {q : β → γ} {r : α → κ}
    {s : β → κ} (h : l.map p = l'.map q) (h' : l.map r = l'.map s) :
    ∀ a ∈ l, ∃ b ∈ l', p a = q b ∧ r a = s b := by
  induction l generalizing l' with
  | nil => exact fun _ ha => absurd ha List.not_mem_nil
  | cons x l ih =>
      intro a ha
      cases l' with
      | nil => exact absurd h (by simp)
      | cons y l' =>
          obtain ⟨hx, hl⟩ := List.cons.inj h
          obtain ⟨hx', hl'⟩ := List.cons.inj h'
          rcases List.mem_cons.1 ha with rfl | ha
          · exact ⟨y, List.mem_cons_self .., hx, hx'⟩
          · obtain ⟨b, hb, hab⟩ := ih hl hl' a ha
            exact ⟨b, List.mem_cons_of_mem _ hb, hab⟩

/-- Lists that look the same pair off the keys of their members. -/
theorem exists_bijOn_of_map_eq [DecidableEq κ] [Inhabited ι] {l : List α} {l' : List β} {p : α → γ}
    {q : β → γ} (key : α → κ) (key' : β → ι) (h : l.map p = l'.map q) (hn : (l.map key).Nodup)
    (hn' : (l'.map key').Nodup) :
    ∃ f : κ → ι, Set.BijOn f {k | k ∈ l.map key} {k | k ∈ l'.map key'} ∧
      ∀ a ∈ l, ∃ b ∈ l', f (key a) = key' b ∧ p a = q b := by
  have hlength : (l.map key).length = (l'.map key').length := by
    simpa using congrArg List.length h
  obtain ⟨f, hf⟩ := exists_map_eq hn hlength
  rw [← hf] at hn'
  refine ⟨f, hf ▸ bijOn_of_nodup_map hn', exists_mem_of_map_eq ?_ h⟩
  rw [← hf, List.map_map]
  rfl

end Lists

namespace Expr

/-! ## First mentions and links -/

mutual

/-- The first mentions in an expression, in pre-order. -/
def firsts : Expr → List Expr
  | backRef _ _ => []
  | define node pattern groups label clauses =>
    define node pattern groups label clauses :: firstsOf clauses

/-- The first mentions in the targets of clauses. -/
def firstsOf : List (Clause Expr) → List Expr
  | [] => []
  | ⟨_, _, target⟩ :: rest => firsts target ++ firstsOf rest

end

/-- The clauses that a mention owns. -/
def ownClauses : Expr → List (Clause Expr)
  | backRef _ _ => []
  | define _ _ _ _ clauses => clauses

/-- The clauses of an expression, each with the mention that owns it. -/
def links (e : Expr) : List (Expr × Clause Expr) :=
  e.firsts.flatMap fun d => d.ownClauses.map (d, ·)

mutual

theorem map_node_firsts : (e : Expr) → e.firsts.map node = e.nodes
  | backRef _ _ => rfl
  | define _ _ _ _ clauses => congrArg _ (map_node_firstsOf clauses)

theorem map_node_firstsOf : (cs : List (Clause Expr)) → (firstsOf cs).map node = nodesOf cs
  | [] => rfl
  | ⟨_, _, target⟩ :: rest => by
      rw [firstsOf, nodesOf, List.map_append, map_node_firsts target, map_node_firstsOf rest]

end

mutual

/-- Every relation is that of a link. -/
theorem relations_perm : (e : Expr) →
    (e.firsts.flatMap fun d => d.ownClauses.map Clause.relation).Perm e.relations
  | backRef _ _ => .refl _
  | define _ _ _ _ clauses => relationsOf_perm clauses

theorem relationsOf_perm : (cs : List (Clause Expr)) → (cs.map Clause.relation ++
    (firstsOf cs).flatMap fun d => d.ownClauses.map Clause.relation).Perm (relationsOf cs)
  | [] => .refl _
  | ⟨relation, _, target⟩ :: rest => by
      rw [firstsOf, relationsOf, List.flatMap_append, List.map_cons, List.cons_append]
      refine .cons relation ((List.perm_append_comm_assoc ..).trans ?_)
      exact (relations_perm target).append (relationsOf_perm rest)

end

theorem map_relation_links (e : Expr) : (e.links.map fun l => l.2.relation).Perm e.relations := by
  have hlinks : (e.links.map fun l => l.2.relation) =
      e.firsts.flatMap fun d => d.ownClauses.map Clause.relation := by
    simp [links, List.map_flatMap, Function.comp_def]
  exact hlinks ▸ e.relations_perm

mutual

theorem exists_at?_of_mem_firsts {d : Expr} : (e : Expr) → d ∈ e.firsts →
    d.defines? = some d.node ∧ ∃ place, e.at? place = some d
  | backRef _ _, hd => absurd hd List.not_mem_nil
  | define node pattern groups label clauses, hd => by
      rcases List.mem_cons.1 hd with rfl | hd
      · exact ⟨rfl, [], rfl⟩
      · obtain ⟨hdefines, i, c, hc, place, hplace⟩ := exists_at?_of_mem_firstsOf clauses hd
        refine ⟨hdefines, i :: place, at?_cons_eq_some_iff.2 ?_⟩
        exact ⟨node, pattern, groups, label, clauses, c, rfl, hc, hplace⟩

theorem exists_at?_of_mem_firstsOf {d : Expr} : (cs : List (Clause Expr)) → d ∈ firstsOf cs →
    d.defines? = some d.node ∧
      ∃ (i : Nat) (c : Clause Expr), cs[i]? = some c ∧ ∃ place, c.target.at? place = some d
  | [], hd => absurd hd List.not_mem_nil
  | ⟨relation, operator, target⟩ :: rest, hd => by
      rcases List.mem_append.1 hd with hd | hd
      · obtain ⟨hdefines, place, hplace⟩ := exists_at?_of_mem_firsts target hd
        exact ⟨hdefines, 0, _, rfl, place, hplace⟩
      · obtain ⟨hdefines, i, c, hc, hplace⟩ := exists_at?_of_mem_firstsOf rest hd
        exact ⟨hdefines, i + 1, c, hc, hplace⟩

end

/-! ## Without handles -/

/-- A clause with all handles blanked out. -/
def bareClause (c : Clause Expr) : Clause Expr := ⟨⟨0⟩, c.operator, c.target.bare⟩

theorem bareOf_eq_map : (cs : List (Clause Expr)) → bareOf cs = cs.map bareClause
  | [] => rfl
  | ⟨_, _, _⟩ :: rest => congrArg _ (bareOf_eq_map rest)

theorem label_bare (e : Expr) : e.bare.label = e.label := by
  cases e <;> rfl

mutual

theorem firsts_bare : (e : Expr) → e.bare.firsts = e.firsts.map bare
  | backRef _ _ => rfl
  | define _ _ _ _ clauses => congrArg _ (firstsOf_bareOf clauses)

theorem firstsOf_bareOf : (cs : List (Clause Expr)) → firstsOf (bareOf cs) = (firstsOf cs).map bare
  | [] => rfl
  | ⟨_, _, target⟩ :: rest => by
      rw [bareOf, firstsOf, firstsOf, List.map_append, firsts_bare target, firstsOf_bareOf rest]

end

theorem ownClauses_bare (e : Expr) : e.bare.ownClauses = e.ownClauses.map bareClause := by
  cases e with
  | backRef node label => rfl
  | define node pattern groups label clauses => exact bareOf_eq_map clauses

theorem links_bare (e : Expr) :
    e.bare.links = e.links.map fun l => (l.1.bare, bareClause l.2) := by
  simp [links, firsts_bare, ownClauses_bare, List.map_flatMap, List.flatMap_map,
    Function.comp_def]

/-! ## Pairing expressions off -/

variable {e e' : Expr}

theorem exists_nodes_bijOn (h : e.bare = e'.bare) (hn : e.nodes.Nodup) (hn' : e'.nodes.Nodup) :
    ∃ f : NodeId → NodeId, Set.BijOn f {v | v ∈ e.nodes} {v | v ∈ e'.nodes} ∧
      ∀ d ∈ e.firsts, ∃ d' ∈ e'.firsts, f d.node = d'.node ∧ d.bare = d'.bare := by
  have hfirsts : e.firsts.map bare = e'.firsts.map bare := by
    rw [← firsts_bare, ← firsts_bare, h]
  rw [← map_node_firsts] at hn hn' ⊢
  rw [← map_node_firsts e']
  exact exists_bijOn_of_map_eq node node hfirsts hn hn'

theorem exists_relations_bijOn (h : e.bare = e'.bare) (hn : e.relations.Nodup)
    (hn' : e'.relations.Nodup) :
    ∃ ρ : RelationId → RelationId,
      Set.BijOn ρ {r | r ∈ e.relations} {r | r ∈ e'.relations} ∧
      ∀ l ∈ e.links, ∃ l' ∈ e'.links, ρ l.2.relation = l'.2.relation ∧
        l.1.bare = l'.1.bare ∧ bareClause l.2 = bareClause l'.2 := by
  have hlinks : (e.links.map fun l => (l.1.bare, bareClause l.2)) =
      e'.links.map fun l => (l.1.bare, bareClause l.2) := by
    rw [← links_bare, ← links_bare, h]
  obtain ⟨ρ, hρ, hpairs⟩ := exists_bijOn_of_map_eq (fun l => l.2.relation) (fun l => l.2.relation)
    hlinks (e.map_relation_links.nodup_iff.2 hn) (e'.map_relation_links.nodup_iff.2 hn')
  simp only [e.map_relation_links.mem_iff, e'.map_relation_links.mem_iff] at hρ
  refine ⟨ρ, hρ, fun l hl => ?_⟩
  obtain ⟨l', hl', hrelation, hbare⟩ := hpairs l hl
  exact ⟨l', hl', hrelation, Prod.mk.inj hbare⟩

end Expr

end TreeQuery

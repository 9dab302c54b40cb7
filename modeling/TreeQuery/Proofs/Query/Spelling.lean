import TreeQuery.Proofs.Query.Recovery

set_option autoImplicit false

/-! # First mentions that are spelled like references back

A reference back is written as an equals sign and a label. A first mention is written so, too, if
there is nothing to write but its label: no pattern, no named group and no clause
(`Expr.text_define_eq_text_backRef_iff`). Nothing keeps a node from having the empty pattern, which
has no groups to name; and a first mention has no clause exactly if no relation touches its node but
the one that led to it (`Query.Visits.ownClauses_root_eq_nil_iff`,
`Query.Visits.ownClauses_concat_eq_nil_iff`). -/

namespace TreeQuery

namespace Expr

/-! ## Texts without anything but a label -/

theorem length_groupText_pos (group : Nat × String) : 0 < (groupText group).length := by
  rw [groupText, String.length_append, String.length_append, String.length_append,
    show "#".length = 1 from rfl]
  omega

theorem join_map_groupText_eq_empty_iff {groups : List (Nat × String)} :
    String.join (groups.map groupText) = "" ↔ groups = [] := by
  cases groups with
  | nil => simp
  | cons group groups =>
      have hpos := length_groupText_pos group
      rw [← String.length_eq_zero_iff]
      simp only [List.map_cons, String.join_cons, String.length_append, reduceCtorEq, iff_false]
      omega

theorem clausesText_eq_empty_iff {cs : List (Clause Expr)} : clausesText cs = "" ↔ cs = [] := by
  cases cs with
  | nil => simp [clausesText]
  | cons c cs =>
      rw [← String.length_eq_zero_iff]
      simp [clausesText]

/-- A first mention is spelled like a reference back exactly if there is nothing but the label. -/
theorem text_define_eq_text_backRef_iff {v w : NodeId} {pattern label : String}
    {groups : List (Nat × String)} {clauses : List (Clause Expr)} :
    (define v pattern groups label clauses).text = (backRef w label).text ↔
      pattern = "" ∧ groups = [] ∧ clauses = [] := by
  rw [text, text, ← clausesText_eq_empty_iff, ← join_map_groupText_eq_empty_iff]
  constructor
  · intro h
    have hlength := congrArg String.length h
    simp only [String.length_append] at hlength
    refine ⟨?_, ?_, ?_⟩ <;> rw [← String.length_eq_zero_iff] <;> omega
  · rintro ⟨rfl, hgroups, hclauses⟩
    rw [hgroups, hclauses]
    simp

/-! ## Links by their places -/

theorem mem_firstsOf {cs : List (Clause Expr)} {d : Expr} :
    d ∈ firstsOf cs ↔ ∃ c ∈ cs, d ∈ c.target.firsts := by
  induction cs with
  | nil => simp [firstsOf]
  | cons c cs ih => rw [firstsOf, List.mem_append, ih, List.exists_mem_cons_iff]

theorem mem_firsts_of_at? {e d : Expr} {place : List Nat} {v : NodeId}
    (hd : e.at? place = some d) (hv : d.defines? = some v) : d ∈ e.firsts := by
  induction place generalizing e with
  | nil =>
      obtain rfl : e = d := Option.some.inj hd
      obtain ⟨pattern, groups, label, clauses, rfl⟩ := defines?_eq_some_iff.1 hv
      exact List.mem_cons_self ..
  | cons i place ih =>
      obtain ⟨node, pattern, groups, label, clauses, c, rfl, hc, hd⟩ := at?_cons_eq_some_iff.1 hd
      exact List.mem_cons_of_mem _ (mem_firstsOf.2 ⟨c, List.mem_of_getElem? hc, ih hd⟩)

/-- A clause stands at a place, behind the mention that owns it. -/
theorem mem_links_iff {e d : Expr} {c : Clause Expr} :
    (d, c) ∈ e.links ↔
      ∃ (place : List Nat) (i : Nat), e.at? place = some d ∧ d.ownClauses[i]? = some c := by
  simp only [links, List.mem_flatMap, List.mem_map, Prod.mk.injEq]
  constructor
  · rintro ⟨d, hd, c, hc, rfl, rfl⟩
    obtain ⟨-, place, hplace⟩ := exists_at?_of_mem_firsts e hd
    obtain ⟨i, hi⟩ := List.getElem?_of_mem hc
    exact ⟨place, i, hplace, hi⟩
  · rintro ⟨place, i, hplace, hi⟩
    cases d with
    | backRef v label => simp [ownClauses] at hi
    | define v pattern groups label clauses =>
        exact ⟨_, mem_firsts_of_at? hplace rfl, c, List.mem_of_getElem? hi, rfl, rfl⟩

/-- A mention that owns no clause encloses nothing. -/
theorem eq_of_prefix_of_ownClauses_eq_nil {e d d' : Expr} {place place' : List Nat}
    (hd : e.at? place = some d) (hclauses : d.ownClauses = []) (hd' : e.at? place' = some d')
    (h : place <+: place') : place = place' := by
  obtain ⟨rest, rfl⟩ := h
  induction place generalizing e with
  | nil =>
      obtain rfl : e = d := Option.some.inj hd
      cases rest with
      | nil => rfl
      | cons i rest =>
          obtain ⟨_, _, _, _, clauses, c, rfl, hc, -⟩ := at?_cons_eq_some_iff.1 hd'
          obtain rfl : clauses = [] := hclauses
          simp at hc
  | cons i place ih =>
      obtain ⟨_, _, _, _, _, c, rfl, hc, hd⟩ := at?_cons_eq_some_iff.1 hd
      obtain ⟨_, _, _, _, _, c', heq, hc', hd'⟩ := at?_cons_eq_some_iff.1 hd'
      obtain ⟨-, -, -, -, rfl⟩ := define.inj heq
      obtain rfl : c = c' := Option.some.inj (hc.symm.trans hc')
      rw [List.cons_append, ← ih hd hd']

end Expr

/-- The relation of a clause touches the node that owns the clause and that of the target. -/
theorem Clause.Renders.touches_iff {g : Graph} {u v : NodeId} {c : Clause Expr}
    (h : c.Renders g u) {relation : Relation} (hget : g.relations.get? c.relation = some relation) :
    relation.Touches v ↔ u = v ∨ c.target.node = v := by
  obtain ⟨relation', dir, hget', -, hends⟩ := h.exists_direction
  obtain rfl : relation = relation' := Option.some.inj (hget.symm.trans hget')
  rcases hends with ⟨-, rfl, htarget⟩ | ⟨-, hsource, rfl⟩
  · rw [← htarget]
    rfl
  · rw [← hsource, or_comm]
    rfl

namespace Query

section

variable [Pattern.Dialect] {g : Graph} {labels : LabelTable} {groupLabels : Bool} {start v : NodeId}
  {seen : Seen} {e : Expr} {node : Node}

/-! ## The relations of a node in an expression -/

/-- The relations of a node are those of the clauses that its mentions own and of the clauses that
lead to its mentions. -/
theorem Visits.mem_incident_iff (hg : g.WellFormed)
    (h : Visits g labels groupLabels start {} e seen) (hv : v ∈ e.nodes)
    (hn : g.nodes.get? v = some node) {r : RelationId} :
    r ∈ node.incoming ++ node.outgoing ↔
      ∃ l ∈ e.links, l.2.relation = r ∧ (l.1.node = v ∨ l.2.target.node = v) := by
  rw [hg.mem_incident hn]
  constructor
  · rintro ⟨relation, hget, htouches⟩
    have hr : r ∈ e.relations :=
      (h.mem_relations_iff hg).2 (Graph.mem_relationsAt.2 ⟨relation, hget, v, hv, htouches⟩)
    rw [← e.map_relation_links.mem_iff] at hr
    obtain ⟨l, hl, rfl⟩ := List.mem_map.1 hr
    exact ⟨l, hl, rfl, ((h.link hg hl).renders.touches_iff hget).1 htouches⟩
  · rintro ⟨l, hl, rfl, hends⟩
    have hrenders := (h.link hg hl).renders
    obtain ⟨relation, dir, hget, -, -⟩ := hrenders.exists_direction
    exact ⟨relation, hget, (hrenders.touches_iff hget).2 hends⟩

/-- To a node whose first mention owns no clause only one clause leads, the one whose target the
first mention is. -/
theorem Visits.place_eq_of_leaf (hg : g.WellFormed)
    (h : Visits g labels groupLabels start {} e seen) {d : Expr} {place : List Nat}
    (hd : e.at? place = some d) (hdefines : d.defines? = some v)
    (hclauses : d.ownClauses = []) {l : Expr × Clause Expr} (hl : l ∈ e.links)
    (hends : l.1.node = v ∨ l.2.target.node = v) :
    ∃ above i, place = above ++ [i] ∧ e.at? above = some l.1 ∧ l.1.ownClauses[i]? = some l.2 := by
  obtain ⟨owner, c⟩ := l
  obtain ⟨above, i, habove, hi⟩ := Expr.mem_links_iff.1 hl
  have hunique {place' : List Nat} {d' : Expr} (hd' : e.at? place' = some d')
      (hdefines' : d'.defines? = some v) : place = place' :=
    Expr.place_eq_of_nodup h.nodup_expr.1 hd hdefines hd' hdefines'
  cases owner with
  | backRef w label => simp [Expr.ownClauses] at hi
  | define u pattern groups label clauses =>
      rcases hends with rfl | htarget
      · -- The owner has no clause to own.
        obtain rfl := hunique habove rfl
        obtain rfl := Option.some.inj (hd.symm.trans habove)
        rw [hclauses] at hi
        simp at hi
      · refine ⟨above, i, ?_, habove, hi⟩
        have hat : e.at? (above ++ [i]) = some c.target :=
          Expr.at?_concat_eq_some_iff.2 ⟨u, pattern, groups, label, clauses, c, habove, hi, rfl⟩
        cases hc : c.target with
        | backRef w name =>
            -- What is referred back to encloses the clause, and so owns one itself.
            rw [hc] at htarget
            obtain rfl : w = v := htarget
            obtain ⟨first, d', hprefix, hne, hd', hdefines', -⟩ :=
              h.scoped hg above u pattern groups label clauses habove c (List.mem_of_getElem? hi) w
                name hc
            obtain rfl := hunique hd' hdefines'
            exact absurd (Expr.eq_of_prefix_of_ownClauses_eq_nil hd hclauses habove hprefix) hne
        | define w pattern' groups' label' clauses' =>
            rw [hc] at htarget hat
            obtain rfl : w = v := htarget
            exact hunique hat rfl

/-- A relation is that of one link only. -/
theorem Visits.link_eq_of_relation_eq (h : Visits g labels groupLabels start {} e seen)
    {l l' : Expr × Clause Expr} (hl : l ∈ e.links) (hl' : l' ∈ e.links)
    (heq : l.2.relation = l'.2.relation) : l = l' := by
  have hnodup := e.map_relation_links.nodup_iff.2 h.nodup_expr.2
  exact List.inj_on_of_nodup_map hnodup hl hl' heq

/-- The relations of the clauses that a first mention owns touch its node. -/
theorem Visits.relation_mem_incident (hg : g.WellFormed)
    (h : Visits g labels groupLabels start {} e seen) {d : Expr} {place : List Nat}
    (hd : e.at? place = some d) (hdefines : d.defines? = some v) (hn : g.nodes.get? v = some node)
    {c : Clause Expr} (hc : c ∈ d.ownClauses) :
    (d, c) ∈ e.links ∧ c.relation ∈ node.incoming ++ node.outgoing := by
  obtain ⟨i, hi⟩ := List.getElem?_of_mem hc
  have hl : (d, c) ∈ e.links := Expr.mem_links_iff.2 ⟨place, i, hd, hi⟩
  have hv := Expr.mem_nodes_of_at? hd hdefines
  exact ⟨hl, (h.mem_incident_iff hg hv hn).2
    ⟨(d, c), hl, rfl, .inl (Expr.node_of_defines? hdefines)⟩⟩

/-- The root owns no clause exactly if no relation touches its node. -/
theorem Visits.ownClauses_root_eq_nil_iff (hg : g.WellFormed)
    (h : Visits g labels groupLabels start {} e seen) (hdefines : e.defines? = some v)
    (hn : g.nodes.get? v = some node) : e.ownClauses = [] ↔ node.degree = 0 := by
  have hroot : e.at? [] = some e := rfl
  rw [Node.degree, ← List.length_append, List.length_eq_zero_iff]
  constructor
  · intro hclauses
    refine List.eq_nil_iff_forall_not_mem.2 fun r hr => ?_
    obtain ⟨l, hl, -, hends⟩ :=
      (h.mem_incident_iff hg (Expr.mem_nodes_of_at? hroot hdefines) hn).1 hr
    obtain ⟨above, i, hplace, -⟩ := h.place_eq_of_leaf hg hroot hdefines hclauses hl hends
    simp at hplace
  · intro hempty
    refine List.eq_nil_iff_forall_not_mem.2 fun c hc => ?_
    obtain ⟨-, hr⟩ := h.relation_mem_incident hg hroot hdefines hn hc
    rw [hempty] at hr
    exact absurd hr List.not_mem_nil

/-- Another first mention owns no clause exactly if the relation that led to it is the only one that
touches its node. -/
theorem Visits.ownClauses_concat_eq_nil_iff (hg : g.WellFormed)
    (h : Visits g labels groupLabels start {} e seen) {d : Expr} {above : List Nat} {i : Nat}
    (hd : e.at? (above ++ [i]) = some d) (hdefines : d.defines? = some v)
    (hn : g.nodes.get? v = some node) : d.ownClauses = [] ↔ node.degree = 1 := by
  obtain ⟨u, pattern, groups, label, clauses, c, habove, hc, rfl⟩ :=
    Expr.at?_concat_eq_some_iff.1 hd
  have hmem (r : RelationId) :=
    h.mem_incident_iff hg (Expr.mem_nodes_of_at? hd hdefines) hn (r := r)
  have hnode := Expr.node_of_defines? hdefines
  have hled : (Expr.define u pattern groups label clauses, c) ∈ e.links :=
    Expr.mem_links_iff.2 ⟨above, i, habove, hc⟩
  have hr : c.relation ∈ node.incoming ++ node.outgoing := (hmem _).2 ⟨_, hled, rfl, .inr hnode⟩
  rw [Node.degree, ← List.length_append]
  constructor
  · intro hclauses
    suffices hperm : (node.incoming ++ node.outgoing).Perm [c.relation] from hperm.length_eq
    refine (List.perm_ext_iff_of_nodup (hg.nodup_incident hn)
      (List.nodup_singleton _)).2 fun r => ?_
    rw [List.mem_singleton]
    refine ⟨fun hmem' => ?_, fun heq => heq ▸ hr⟩
    obtain ⟨⟨owner, c'⟩, hl, rfl, hends⟩ := (hmem r).1 hmem'
    obtain ⟨above', i', hplace, habove', hc'⟩ :=
      h.place_eq_of_leaf hg hd hdefines hclauses hl hends
    obtain ⟨rfl, hi⟩ := List.append_inj' hplace rfl
    obtain rfl := (List.cons.inj hi).1
    obtain rfl := Option.some.inj (habove.symm.trans habove')
    rw [Option.some.inj (hc'.symm.trans hc)]
  · intro hone
    obtain ⟨r, hincident⟩ := List.length_eq_one_iff.1 hone
    refine List.eq_nil_iff_forall_not_mem.2 fun c' hc' => ?_
    obtain ⟨hl, hr'⟩ := h.relation_mem_incident hg hd hdefines hn hc'
    rw [hincident, List.mem_singleton] at hr hr'
    -- The two clauses have one relation, so they are one clause with one owner.
    have heq := h.link_eq_of_relation_eq hl hled (hr'.trans hr.symm)
    have howner : c.target = .define u pattern groups label clauses := (Prod.mk.inj heq).1
    have hplace := Expr.place_eq_of_nodup h.nodup_expr.1 hd hdefines habove (howner ▸ hdefines)
    simp at hplace

/-! ## Spelling -/

/-- Nothing is written behind an empty pattern that has no groups. -/
theorem shownGroups_eq_nil (hempty : Pattern.Dialect.captureCount "" = some 0) (groupLabels : Bool)
    (hpattern : node.pattern = "") : shownGroups groupLabels node = [] := by
  unfold shownGroups
  split
  · unfold Node.activeGroups Node.captureCount
    rw [hpattern, hempty]
    simp
  · rfl

theorem Visits.text_eq_backRef_iff (hg : g.WellFormed)
    (hempty : Pattern.Dialect.captureCount "" = some 0)
    (h : Visits g labels groupLabels start {} e seen) {d : Expr} {place : List Nat}
    (hd : e.at? place = some d) (hdefines : d.defines? = some v) :
    ∃ node, g.nodes.get? v = some node ∧ ∀ w, d.text = (Expr.backRef w d.label).text ↔
      node.pattern = "" ∧ node.degree = if place = [] then 0 else 1 := by
  obtain ⟨pattern, groups, label, clauses, rfl⟩ := Expr.defines?_eq_some_iff.1 hdefines
  obtain ⟨node, hn, rfl, rfl⟩ := h.define_eq hg hd
  refine ⟨node, hn, fun w => ?_⟩
  have hclauses : clauses = [] ↔ node.degree = if place = [] then 0 else 1 := by
    rcases List.eq_nil_or_concat place with rfl | ⟨above, i, rfl⟩
    · obtain rfl := Option.some.inj hd
      exact h.ownClauses_root_eq_nil_iff hg hdefines hn
    · rw [List.concat_eq_append] at hd ⊢
      rw [if_neg (by simp)]
      exact h.ownClauses_concat_eq_nil_iff hg hd hdefines hn
  show _ = (Expr.backRef w label).text ↔ _
  rw [Expr.text_define_eq_text_backRef_iff, ← hclauses]
  constructor
  · rintro ⟨hpattern, -, hnil⟩
    exact ⟨hpattern, hnil⟩
  · rintro ⟨hpattern, hnil⟩
    exact ⟨hpattern, shownGroups_eq_nil hempty groupLabels hpattern, hnil⟩

/-- **Which first mentions are spelled like references back.** The first mention of a node is
spelled like a reference back to its label exactly if the pattern of the node is empty and no
relation touches the node, but for the one that led to it. This is so in every dialect in which the
empty pattern is valid and has no groups. -/
theorem first_spelled_as_backRef_iff (hempty : Pattern.Dialect.captureCount "" = some 0)
    (hg : g.Buildable) {config : Config} {c : Compiled} (hc : g.compileFrom start config = .ok c) :
    ∃ e, c.expr = some e ∧ ∀ place d v, e.at? place = some d → d.defines? = some v →
      ∃ node, g.nodes.get? v = some node ∧ ∀ w, d.text = (Expr.backRef w d.label).text ↔
        node.pattern = "" ∧ node.degree = if place = [] then 0 else 1 := by
  obtain ⟨e, seen, he, hvisits⟩ := visits_of_compileFrom hc
  exact ⟨e, he, fun place d v hd hv => hvisits.text_eq_backRef_iff hg.wellFormed hempty hd hv⟩

end

/-- The empty pattern has no groups in the dialect that is read here. -/
theorem captureCount_empty : Pattern.captureCount "" = some 0 := by decide +kernel

/-- A chain of three nodes, the last two with the empty pattern. -/
def mute : Graph :=
  .replay .empty [.createNode "S", .createNode "", .createNode "",
    .createRelation ⟨0⟩ ⟨1⟩ { kind := .leftSibling }, .createRelation ⟨1⟩ ⟨2⟩ { kind := .sibling }]

/-- The first mention of the last node, where nothing but the label is written. -/
def lastMute : Expr := .define ⟨2⟩ "" [] "___g2" []

/-- The first mention of the node in the middle, which has a clause. -/
def middleMute : Expr := .define ⟨1⟩ "" [] "___g1" [⟨⟨1⟩, "$", lastMute⟩]

theorem buildable_mute : mute.Buildable := ⟨_, rfl⟩

theorem compileFrom_mute : ∃ c, mute.compileFrom ⟨0⟩ {} = .ok c ∧
    c.expr = some (.define ⟨0⟩ "S" [] "___g0" [⟨⟨0⟩, "$..", middleMute⟩]) ∧
    c.text = "S=___g0 $.. (=___g1 $ (=___g2))" := by
  refine ⟨_, rfl, rfl, by decide +kernel⟩

/-- The last node can be told from a reference back by nothing, the one in the middle by its
clause. -/
theorem first_spelled_as_backRef_mute :
    lastMute.text = (Expr.backRef ⟨2⟩ "___g2").text ∧
    middleMute.text ≠ (Expr.backRef ⟨1⟩ "___g1").text := by
  obtain ⟨c, hc, hexpr, -⟩ := compileFrom_mute
  obtain ⟨e, he, hspelled⟩ := first_spelled_as_backRef_iff captureCount_empty buildable_mute hc
  obtain rfl := Option.some.inj (hexpr.symm.trans he)
  obtain ⟨last, hlast, hlastSpelled⟩ := hspelled [0, 0] lastMute ⟨2⟩ rfl rfl
  obtain ⟨middle, hmiddle, hmiddleSpelled⟩ := hspelled [0] middleMute ⟨1⟩ rfl rfl
  obtain rfl := Option.some.inj hlast
  obtain rfl := Option.some.inj hmiddle
  exact ⟨(hlastSpelled ⟨2⟩).2 ⟨rfl, rfl⟩, fun h => absurd ((hmiddleSpelled ⟨1⟩).1 h).2 (by decide)⟩

/-- A first mention can be spelled like a reference back where nothing refers back. -/
theorem exists_first_spelled_as_backRef : ∃ c e d, mute.Buildable ∧
    mute.compileFrom ⟨0⟩ {} = .ok c ∧ c.expr = some e ∧ e.at? [0, 0] = some d ∧
    d.defines? = some ⟨2⟩ ∧ d.text = (Expr.backRef ⟨2⟩ d.label).text ∧ e.backReferences = [] ∧
    c.text = "S=___g0 $.. (=___g1 $ (=___g2))" := by
  obtain ⟨c, hc, hexpr, htext⟩ := compileFrom_mute
  exact ⟨c, _, lastMute, buildable_mute, hc, hexpr, rfl, rfl, by decide +kernel, rfl, htext⟩

end Query

end TreeQuery

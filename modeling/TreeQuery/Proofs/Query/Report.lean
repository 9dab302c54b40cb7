import Mathlib.Data.List.Basic
import Mathlib.Data.List.Induction
import TreeQuery.Proofs.Graph.WellFormed
import TreeQuery.Proofs.LabelTable
import TreeQuery.Query.Compile

set_option autoImplicit false

/-! # What is reported

`Graph.reports` lists the reports of a compilation from the graph and the nodes that the query
reaches, without a label table: a generated label is carried once, so the labels that several nodes
carry are among those that users have given (`checkLabels_assign`). The checks report exactly this
list (`diagnose_assign`), and a report is an error only if it is about an unreached node and the
options say so (`hasErrors_reports`). -/

namespace TreeQuery

namespace Graph

/-! ## The list of reports -/

/-- The nodes that carry a name as a label of their own, oldest first. -/
def owners (g : Graph) (name : String) : List NodeId :=
  (g.nodes.entries.filter fun e => e.2.hasLabel && e.2.label = name).map Prod.fst

/-- The report about a node that carries the same label as an older one. -/
def duplicateReport (name : String) (first node : NodeId) : Diagnostic where
  kind := .duplicateLabel
  severity := .warning
  node := node
  message := "label `" ++ name ++ "` is used by more than one node"
  notes := [⟨first, "first used here"⟩]
  hints := ["nodes sharing a label match the same tree node"]

/-- The reports about labels. Where the oldest carrier of a label stands, all others are listed. -/
def duplicateReports (g : Graph) : Diagnostics :=
  g.nodes.entries.flatMap fun (id, node) =>
    if (g.owners node.label).head? = some id then
      (g.owners node.label).tail.map (duplicateReport node.label id)
    else []

/-- The report about a named group that the pattern of its node does not have. -/
def inactiveReport (id : NodeId) (captures : Option Nat) (group : Nat × String) : Diagnostic where
  kind := .inactiveGroupLabel
  severity := .warning
  node := id
  message := "group label `" ++ group.2 ++ "` has no capture group to name"
  hints := ["add a capture group to the pattern or clear the group label",
    Query.groupHint group.1 captures]

/-- The reports about named groups, in the order of the nodes and of the groups. -/
def inactiveReports [Pattern.Dialect] (g : Graph) : Diagnostics :=
  g.nodes.entries.flatMap fun (id, node) =>
    (node.namedGroups.filter fun group => !node.captureCount.any (group.1 < ·)).map
      (inactiveReport id node.captureCount)

/-- The report about a node that the query does not reach. -/
def unreachedReport (severity : Severity) (id : NodeId) (pattern : String) : Diagnostic where
  kind := .unreachableNode
  severity := severity
  node := id
  message := "node `" ++ pattern ++ "` is not reachable from the head"
  hints := ["relate it to a node reachable from the head, or delete it"]

/-- The reports about nodes that are not reached, in the order of the nodes. -/
def unreachedReports (g : Graph) (severity : Severity) (reached : List NodeId) : Diagnostics :=
  (g.nodes.entries.filter fun e => e.1 ∉ reached).map fun e =>
    unreachedReport severity e.1 e.2.pattern

/-- All reports of a compilation, given the nodes that are reached. -/
def reports [Pattern.Dialect] (g : Graph) (config : Config) (reached : List NodeId) : Diagnostics :=
  g.duplicateReports ++ (if config.groupLabels then g.inactiveReports else [])
    ++ match config.unreachable with
      | .ignore => []
      | .warn => g.unreachedReports .warning reached
      | .error => g.unreachedReports .error reached

variable {g : Graph}

theorem owners_eq (g : Graph) (name : String) : g.owners name =
    g.nodes.keys.filter fun id => (g.nodes.get? id).any fun node =>
      node.hasLabel && node.label = name :=
  g.nodes.map_fst_filter_entries fun node => node.hasLabel && node.label = name

theorem mem_owners {id : NodeId} {name : String} : id ∈ g.owners name ↔ g.HasOwnLabel id name := by
  simp only [owners, List.mem_map, List.mem_filter, Bool.and_eq_true, decide_eq_true_eq]
  constructor
  · rintro ⟨e, ⟨he, hown, hname⟩, rfl⟩
    exact ⟨e.2, OrderedMap.get?_eq_some_iff.2 he, hown, hname⟩
  · rintro ⟨node, hn, hown, hname⟩
    exact ⟨(id, node), ⟨OrderedMap.get?_eq_some_iff.1 hn, hown, hname⟩, rfl⟩

end Graph

/-! ## Names by their first carriers -/

namespace LabelTable

theorem mem_carriers {t : LabelTable} {id : NodeId} {name : String} :
    id ∈ t.carriers name ↔ t.name? id = some name := by
  simp only [carriers, List.mem_map, List.mem_filter, decide_eq_true_eq, name?,
    Option.map_eq_some_iff]
  constructor
  · rintro ⟨e, ⟨he, hname⟩, rfl⟩
    exact ⟨e.2, OrderedMap.get?_eq_some_iff.2 he, hname⟩
  · rintro ⟨l, hl, hname⟩
    exact ⟨(id, l), ⟨OrderedMap.get?_eq_some_iff.1 hl, hname⟩, rfl⟩

theorem nodup_carriers (t : LabelTable) (name : String) : (t.carriers name).Nodup :=
  t.nodup_keys.sublist (List.filter_sublist.map Prod.fst)

/-- The entry that follows `before` is the first carrier of its name if no entry before it has the
name. -/
theorem head?_carriers {t : LabelTable} {before after : List (NodeId × Label)} {e : NodeId × Label}
    (h : t.entries = before ++ e :: after) :
    (t.carriers e.2.name).head? = some e.1 ↔ e.2.name ∉ before.map fun b => b.2.name := by
  have hnodup := t.nodup_keys
  rw [h, List.map_append, List.map_cons, List.nodup_append] at hnodup
  obtain ⟨-, -, hdisjoint⟩ := hnodup
  rw [carriers, h, List.filter_append, List.filter_cons_of_pos (by simp), List.map_append,
    List.head?_append]
  cases hbefore : before.filter fun b => b.2.name = e.2.name with
  | nil =>
      rw [List.filter_eq_nil_iff] at hbefore
      refine ⟨fun _ hmem => ?_, fun _ => rfl⟩
      obtain ⟨b, hb, hname⟩ := List.mem_map.1 hmem
      exact hbefore b hb (by simpa using hname)
  | cons b rest =>
      have hb := List.mem_filter.1 (hbefore ▸ List.mem_cons_self : b ∈ before.filter _)
      refine ⟨fun heq => ?_,
        fun hmem => absurd (List.mem_map.2 ⟨b, hb.1, by simpa using hb.2⟩) hmem⟩
      exact absurd (Option.some.inj heq) (hdisjoint _ (List.mem_map_of_mem hb.1) _
        (List.mem_cons_self ..))

/-- Going through the different names is going through the entries that carry theirs first. -/
theorem flatMap_eraseDups {γ : Type} (t : LabelTable) (f : String → List γ) :
    (t.entries.map fun e => e.2.name).eraseDups.flatMap f = t.entries.flatMap fun e =>
      if (t.carriers e.2.name).head? = some e.1 then f e.2.name else [] := by
  suffices hbefore : ∀ before after, t.entries = before ++ after →
      (before.map fun e => e.2.name).eraseDups.flatMap f = before.flatMap fun e =>
        if (t.carriers e.2.name).head? = some e.1 then f e.2.name else [] from
    hbefore t.entries [] (List.append_nil _).symm
  intro before
  induction before using List.reverseRecOn with
  | nil => exact fun _ _ => rfl
  | append_singleton before e ih =>
      intro after h
      rw [List.append_assoc, List.singleton_append] at h
      rw [List.map_append, List.eraseDups_append, List.flatMap_append, ih _ h, List.flatMap_append,
        List.map_singleton, List.flatMap_singleton]
      congr 1
      by_cases hold : e.2.name ∈ before.map fun b => b.2.name
      · rw [if_neg fun hhead => (head?_carriers h).1 hhead hold]
        simp [List.removeAll, hold]
      · rw [if_pos ((head?_carriers h).2 hold)]
        simp [List.removeAll, hold, List.eraseDups_cons]

/-! ## Carriers and owners -/

variable {g : Graph} {stem name : String}

theorem carriers_eq (t : LabelTable) (name : String) :
    t.carriers name = t.keys.filter fun id => (t.get? id).any fun l => l.name = name :=
  t.map_fst_filter_entries fun l => l.name = name

/-- The carriers of a name that users have given are those that have been given it. -/
theorem carriers_assign (h : name ∈ userLabels g) :
    (assign g stem).carriers name = g.owners name := by
  rw [carriers_eq, Graph.owners_eq, keys_assign]
  refine List.filter_congr fun id hid => ?_
  obtain ⟨node, hn⟩ := OrderedMap.mem_keys_iff.1 hid
  obtain ⟨l, hl, hfits⟩ := exists_get?_assign stem hn
  rw [hn, hl, Option.any_some, Option.any_some]
  cases hfits with
  | own hown => simp [hown]
  | generated hown hstart hfree =>
      have hne : generatedName stem _ ≠ name := fun heq => hfree (heq ▸ h)
      simp [hown, hne]

/-- A name that is nobody's own has no second carrier. -/
theorem length_carriers_le (h : name ∉ userLabels g) :
    ((assign g stem).carriers name).length ≤ 1 := by
  have hnodup := nodup_carriers (assign g stem) name
  have hmem : ∀ id ∈ (assign g stem).carriers name, (assign g stem).name? id = some name :=
    fun id hid => mem_carriers.1 hid
  match hcarriers : (assign g stem).carriers name with
  | [] => exact Nat.zero_le 1
  | [_] => exact Nat.le_refl 1
  | u :: v :: _ =>
      rw [hcarriers] at hnodup hmem
      have hne : u ≠ v := fun heq => (List.nodup_cons.1 hnodup).1 (heq ▸ List.mem_cons_self ..)
      have hown := own_of_name?_eq (hmem u (by simp)) (hmem v (by simp)) hne
      exact absurd (mem_userLabels hown) h

/-- Nobody owns the label of a node that has none. -/
theorem owners_of_hasLabel_eq_false {node : Node} (h : node.hasLabel = false) :
    g.owners node.label = [] := by
  refine List.eq_nil_iff_forall_not_mem.2 fun id hid => ?_
  obtain ⟨owner, -, hown, hname⟩ := Graph.mem_owners.1 hid
  rw [Node.hasLabel, hname, ← Node.hasLabel, h] at hown
  exact Bool.false_ne_true hown

end LabelTable

/-! ## The checks -/

/-- A pattern has none of the groups beyond its last one, and none at all if it is not valid. -/
theorem Node.missingGroups_eq [Pattern.Dialect] (node : Node) : node.missingGroups =
    node.namedGroups.filter fun group => !node.captureCount.any (group.1 < ·) := by
  refine List.filter_congr fun group _ => ?_
  cases node.captureCount with
  | none => simp
  | some count => exact Bool.eq_iff_iff.2 (by simp)

namespace Query

variable {g : Graph} {stem : String}

/-- The reports about a name, given its carriers. -/
def labelReports (name : String) : List NodeId → Diagnostics
  | [] => []
  | first :: rest => rest.map (Graph.duplicateReport name first)

theorem labelReports_of_length_le {name : String} {nodes : List NodeId} (h : nodes.length ≤ 1) :
    labelReports name nodes = [] := by
  match nodes, h with
  | [], _ => rfl
  | [_], _ => rfl

/-- Names with a single carrier do not contribute. -/
theorem checkLabels_eq (t : LabelTable) : checkLabels t =
    (t.entries.map fun e => e.2.name).eraseDups.flatMap fun name =>
      labelReports name (t.carriers name) := by
  rw [checkLabels, LabelTable.duplicates]
  generalize (t.entries.map fun e => e.2.name).eraseDups = names
  induction names with
  | nil => rfl
  | cons name names ih =>
      rw [List.map_cons, List.flatMap_cons, ← ih, List.filter_cons]
      split
      · next hlong =>
        rw [List.flatMap_cons]
        rfl
      · next hshort =>
        rw [labelReports_of_length_le (by simpa using hshort)]
        rfl

/-- Generated labels are never reported, so the reports can be read off the graph. -/
theorem checkLabels_assign (g : Graph) (stem : String) :
    checkLabels (.assign g stem) = g.duplicateReports := by
  have htable := OrderedMap.flatMap_entries (LabelTable.assign g stem) fun id l =>
    if ((LabelTable.assign g stem).carriers l.name).head? = some id then
      labelReports l.name ((LabelTable.assign g stem).carriers l.name) else []
  have hgraph := OrderedMap.flatMap_entries g.nodes fun id node =>
    if (g.owners node.label).head? = some id then
      (g.owners node.label).tail.map (Graph.duplicateReport node.label id) else []
  rw [checkLabels_eq, LabelTable.flatMap_eraseDups, htable, Graph.duplicateReports, hgraph,
    LabelTable.keys_assign]
  refine List.flatMap_congr fun id hid => ?_
  obtain ⟨node, hn⟩ := OrderedMap.mem_keys_iff.1 hid
  obtain ⟨l, hl, hfits⟩ := LabelTable.exists_get?_assign stem hn
  rw [hn, hl, Option.toList_some, Option.toList_some, List.flatMap_singleton,
    List.flatMap_singleton]
  cases hfits with
  | own hown =>
      rw [LabelTable.carriers_assign (LabelTable.mem_userLabels ⟨node, hn, hown, rfl⟩)]
      split
      · next hhead =>
        obtain ⟨rest, howners⟩ := List.head?_eq_some_iff.1 hhead
        rw [howners]
        rfl
      · rfl
  | generated hown hstart hfree =>
      rw [labelReports_of_length_le (LabelTable.length_carriers_le hfree),
        LabelTable.owners_of_hasLabel_eq_false hown]
      simp

theorem checkGroupLabels_eq [Pattern.Dialect] (g : Graph) :
    checkGroupLabels g = g.inactiveReports := by
  refine List.flatMap_congr fun e _ => ?_
  show checkNodeGroups e.1 e.2 = _
  rw [checkNodeGroups, Node.missingGroups_eq]
  rfl

theorem checkReached_eq (g : Graph) (policy : UnreachablePolicy) (reached : List NodeId) :
    checkReached g policy reached = match policy with
      | .ignore => []
      | .warn => g.unreachedReports .warning reached
      | .error => g.unreachedReports .error reached := by
  cases policy <;> rfl

end Query

namespace Graph

variable {g : Graph}

theorem unreachedReports_congr {severity : Severity} {reached reached' : List NodeId}
    (h : ∀ id, id ∈ reached ↔ id ∈ reached') :
    g.unreachedReports severity reached = g.unreachedReports severity reached' := by
  rw [unreachedReports, unreachedReports]
  simp only [h]

/-- What a compilation reports, whatever the stem of its generated labels is. -/
theorem diagnose_assign [Pattern.Dialect] (g : Graph) (config : Config) (stem : String)
    {reached reached' : List NodeId}
    (h : ∀ id, id ∈ reached ↔ id ∈ reached') :
    g.diagnose config (.assign g stem) reached = g.reports config reached' := by
  rw [diagnose, reports, Query.checkLabels_assign, Query.checkGroupLabels_eq, Query.checkReached_eq,
    unreachedReports_congr h, unreachedReports_congr h]

theorem mem_unreachedReports {severity : Severity} {reached : List NodeId} {d : Diagnostic} :
    d ∈ g.unreachedReports severity reached ↔ ∃ id node, g.nodes.get? id = some node ∧
      id ∉ reached ∧ d = unreachedReport severity id node.pattern := by
  simp only [unreachedReports, List.mem_map, List.mem_filter, decide_eq_true_eq]
  constructor
  · rintro ⟨e, ⟨he, hid⟩, rfl⟩
    exact ⟨e.1, e.2, OrderedMap.get?_eq_some_iff.2 he, hid, rfl⟩
  · rintro ⟨id, node, hn, hid, rfl⟩
    exact ⟨(id, node), ⟨OrderedMap.get?_eq_some_iff.1 hn, hid⟩, rfl⟩

/-- A name that a node has as its own has an oldest owner, and all other owners are reported. -/
theorem exists_first_owner (hg : g.WellFormed) {name : String} {id : NodeId}
    (h : g.HasOwnLabel id name) :
    ∃ first, g.HasOwnLabel first name ∧ ∀ v, g.HasOwnLabel v name → v ≠ first →
      first.index < v.index ∧ duplicateReport name first v ∈ g.duplicateReports := by
  obtain ⟨first, rest, howners⟩ := List.exists_cons_of_ne_nil (List.ne_nil_of_mem (mem_owners.2 h))
  have hfirst : g.HasOwnLabel first name := mem_owners.1 (howners ▸ List.mem_cons_self)
  have hascend : (first :: rest).Pairwise fun a b => a.index < b.index := by
    rw [← howners, owners_eq]
    exact hg.nodes_ascend.sublist List.filter_sublist
  refine ⟨first, hfirst, fun v hv hne => ?_⟩
  have hrest : v ∈ rest := by
    have hmem := mem_owners.2 hv
    rw [howners] at hmem
    exact (List.mem_cons.1 hmem).resolve_left hne
  refine ⟨(List.pairwise_cons.1 hascend).1 v hrest, ?_⟩
  obtain ⟨node, hn, -, rfl⟩ := hfirst
  refine List.mem_flatMap.2 ⟨(first, node), OrderedMap.get?_eq_some_iff.1 hn, ?_⟩
  dsimp only
  rw [howners, if_pos List.head?_cons, List.tail_cons]
  exact List.mem_map_of_mem hrest

theorem severity_of_mem_duplicateReports {d : Diagnostic} (h : d ∈ g.duplicateReports) :
    d.severity = .warning := by
  obtain ⟨⟨id, node⟩, -, hd⟩ := List.mem_flatMap.1 h
  dsimp only at hd
  split at hd
  · obtain ⟨v, -, rfl⟩ := List.mem_map.1 hd
    rfl
  · exact absurd hd List.not_mem_nil

theorem severity_of_mem_inactiveReports [Pattern.Dialect] {d : Diagnostic}
    (h : d ∈ g.inactiveReports) : d.severity = .warning := by
  obtain ⟨e, -, hd⟩ := List.mem_flatMap.1 h
  obtain ⟨group, -, rfl⟩ := List.mem_map.1 hd
  rfl

/-- There are errors among the reports exactly if unreached nodes are errors and there are some. -/
theorem hasErrors_reports [Pattern.Dialect] (config : Config) (reached : List NodeId) :
    (g.reports config reached).hasErrors = true ↔
      config.unreachable = .error ∧ ∃ id ∈ g.nodes.keys, id ∉ reached := by
  have hgroups : ∀ d ∈ (if config.groupLabels then g.inactiveReports else []),
      d.severity = .warning := by
    intro d hd
    split at hd
    · exact severity_of_mem_inactiveReports hd
    · exact absurd hd List.not_mem_nil
  simp only [Diagnostics.hasErrors, List.any_eq_true, decide_eq_true_eq, reports, List.mem_append]
  constructor
  · rintro ⟨d, (hd | hd) | hd, herror⟩
    · exact absurd (severity_of_mem_duplicateReports hd) (by simp [herror])
    · exact absurd (hgroups d hd) (by simp [herror])
    · split at hd
      · exact absurd hd List.not_mem_nil
      · obtain ⟨id, node, -, -, rfl⟩ := mem_unreachedReports.1 hd
        exact absurd herror (by simp [unreachedReport])
      · next hpolicy =>
        obtain ⟨id, node, hn, hid, -⟩ := mem_unreachedReports.1 hd
        exact ⟨hpolicy, id, OrderedMap.mem_keys_iff.2 ⟨node, hn⟩, hid⟩
  · rintro ⟨hpolicy, id, hlive, hid⟩
    obtain ⟨node, hn⟩ := OrderedMap.mem_keys_iff.1 hlive
    refine ⟨unreachedReport .error id node.pattern, .inr ?_, rfl⟩
    rw [hpolicy]
    exact mem_unreachedReports.2 ⟨id, node, hn, hid, rfl⟩

end Graph

end TreeQuery

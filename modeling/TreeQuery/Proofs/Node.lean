import TreeQuery.Node
import TreeQuery.Proofs.Text.Trim

set_option autoImplicit false

/-! # What edits make of a node

An edit changes one text of a node and nothing else (`Frame`), and it stores texts without blanks at
their ends only (`Normal`). So whatever is asked of a new node, its label and the names of its
groups are trimmed, and each group has the name that it was given last (`groupLabel?_replay`). -/

namespace TreeQuery.Node

variable {node node' : Node} {e : Node.Edit} {index : Nat}

/-! ## Named groups -/

theorem mem_namedGroups {group : Nat × String} :
    group ∈ node.namedGroups ↔ node.groupLabel? group.1 = some group.2 := by
  obtain ⟨i, name⟩ := group
  simp only [namedGroups, List.mem_filterMap, List.mem_range, Option.map_eq_some_iff,
    Prod.mk.injEq]
  constructor
  · rintro ⟨j, -, name', hname, rfl, rfl⟩
    exact hname
  · intro hname
    refine ⟨i, ?_, name, hname, rfl, rfl⟩
    -- There are no names beyond those of the first groups.
    by_contra hle
    rw [groupLabel?, Vector.getElem?_eq_none (Nat.not_lt.1 hle)] at hname
    exact absurd hname (by simp)

theorem groupLabels_eq_of_namedGroups_eq (h : node.namedGroups = node'.namedGroups) :
    node.groupLabels = node'.groupLabels := by
  have hname (index : Nat) : node.groupLabel? index = node'.groupLabel? index := by
    have hmem (node : Node) (name : String) :
        node.groupLabel? index = some name ↔ (index, name) ∈ node.namedGroups := by
      rw [mem_namedGroups]
    exact Option.ext fun name => by rw [hmem, hmem, h]
  refine Vector.ext fun index hindex => ?_
  simpa [groupLabel?, hindex] using hname index

theorem namedGroups_ascend (node : Node) :
    node.namedGroups.Pairwise fun a b => a.1 < b.1 := by
  refine List.pairwise_lt_range.filterMap _ fun i j hij a ha b hb => ?_
  obtain ⟨-, -, rfl⟩ := Option.map_eq_some_iff.1 ha
  obtain ⟨-, -, rfl⟩ := Option.map_eq_some_iff.1 hb
  exact hij

theorem lt_of_mem_namedGroups {group : Nat × String} (h : group ∈ node.namedGroups) :
    group.1 < maxGroupLabels := by
  obtain ⟨i, hi, hgroup⟩ := List.mem_filterMap.1 h
  obtain ⟨-, -, rfl⟩ := Option.map_eq_some_iff.1 hgroup
  exact List.mem_range.1 hi

/-! ## One edit -/

/-- What is kept of a name that a group is given: nothing if it is blank. -/
def keptName (name : String) : Option String :=
  if Text.Blank name then none else some (Text.trim name)

theorem groupLabel?_setGroupLabel {name : String} (h : node.setGroupLabel index name = .ok node')
    (i : Nat) :
    node'.groupLabel? i = if i = index then keptName name else node.groupLabel? i := by
  simp only [setGroupLabel] at h
  split at h
  · cases h
    simp only [groupLabel?, Vector.getElem?_set, keptName, String.isEmpty_iff,
      Text.trim_eq_empty_iff]
    split
    · next hindex => rw [if_pos hindex.symm, Option.join_some]
    · next hindex => rw [if_neg (Ne.symm hindex)]
  · cases h

/-- An edit changes what it is about and nothing else. -/
structure Frame (e : Node.Edit) (node node' : Node) : Prop where
  pattern : (∀ pattern, e ≠ .setPattern pattern) → node'.pattern = node.pattern
  label : (∀ label, e ≠ .setLabel label) → node'.label = node.label
  group : ∀ index, (∀ name, e ≠ .setGroupLabel index name) →
    node'.groupLabel? index = node.groupLabel? index
  incoming : node'.incoming = node.incoming
  outgoing : node'.outgoing = node.outgoing

theorem frame_of_edit (h : node.edit e = .ok node') : Frame e node node' := by
  cases e with
  | setPattern pattern =>
      cases h
      exact ⟨fun hne => absurd rfl (hne pattern), fun _ => rfl, fun _ _ => rfl, rfl, rfl⟩
  | setLabel label =>
      cases h
      exact ⟨fun _ => rfl, fun hne => absurd rfl (hne label), fun _ _ => rfl, rfl, rfl⟩
  | setGroupLabel index name =>
      have hgroup := groupLabel?_setGroupLabel h
      simp only [edit, setGroupLabel] at h
      split at h
      · cases h
        refine ⟨fun _ => rfl, fun _ => rfl, fun i hne => ?_, rfl, rfl⟩
        rw [hgroup, if_neg]
        rintro rfl
        exact hne name rfl
      · cases h

/-- An edit of a node leaves its lists alone. -/
theorem lists_of_edit (h : node.edit e = .ok node') :
    node'.incoming = node.incoming ∧ node'.outgoing = node.outgoing :=
  ⟨(frame_of_edit h).incoming, (frame_of_edit h).outgoing⟩

/-- The texts of a node have no blanks at their ends, and a name that is there is not empty. -/
structure Normal (node : Node) : Prop where
  label : Text.Trimmed node.label
  name_ne : ∀ {index name}, node.groupLabel? index = some name → name ≠ ""
  name : ∀ {index name}, node.groupLabel? index = some name → Text.Trimmed name

theorem keptName_normal {name kept : String} (h : keptName name = some kept) :
    kept ≠ "" ∧ Text.Trimmed kept := by
  rw [keptName] at h
  split at h
  · cases h
  · next hblank =>
    cases h
    exact ⟨fun hempty => hblank (Text.trim_eq_empty_iff.1 hempty), Text.trimmed_trim name⟩

theorem Normal.edit (h : node.Normal) (he : node.edit e = .ok node') : node'.Normal := by
  have hframe := frame_of_edit he
  have hname : ∀ {i kept}, node'.groupLabel? i = some kept → kept ≠ "" ∧ Text.Trimmed kept := by
    intro i kept hkept
    by_cases hgiven : ∃ name, e = .setGroupLabel i name
    · obtain ⟨name, rfl⟩ := hgiven
      rw [groupLabel?_setGroupLabel he, if_pos rfl] at hkept
      exact keptName_normal hkept
    · rw [hframe.group i fun name heq => hgiven ⟨name, heq⟩] at hkept
      exact ⟨h.name_ne hkept, h.name hkept⟩
  refine ⟨?_, fun hkept => (hname hkept).1, fun hkept => (hname hkept).2⟩
  by_cases hlabel : ∃ label, e = .setLabel label
  · obtain ⟨label, rfl⟩ := hlabel
    cases he
    exact Text.trimmed_trim label
  · rw [hframe.label fun label heq => hlabel ⟨label, heq⟩]
    exact h.label

/-! ## Histories -/

/-- The node that an edit leaves; one that is refused leaves the node as it was. -/
def after (node : Node) (e : Node.Edit) : Node :=
  match node.edit e with
  | .ok node' => node'
  | .error _ => node

/-- The node after a history of edits. -/
def replay (node : Node) (history : List Node.Edit) : Node := history.foldl after node

/-- The name that an edit gives to a group, as it is given. -/
def Edit.given (index : Nat) : Node.Edit → Option String
  | .setGroupLabel i name => if i = index then some name else none
  | _ => none

/-- The name that a history gives to a group last. -/
def lastGiven (index : Nat) (history : List Node.Edit) : Option String :=
  history.reverse.findSome? (Edit.given index)

theorem frame_after (node : Node) (e : Node.Edit) : Frame e node (node.after e) := by
  unfold after
  split
  · next he => exact frame_of_edit he
  · exact ⟨fun _ => rfl, fun _ => rfl, fun _ _ => rfl, rfl, rfl⟩

theorem Normal.after (h : node.Normal) (e : Node.Edit) : (node.after e).Normal := by
  unfold Node.after
  split
  · next he => exact h.edit he
  · exact h

theorem Normal.replay (h : node.Normal) (history : List Node.Edit) :
    (node.replay history).Normal := by
  induction history generalizing node with
  | nil => exact h
  | cons e es ih => exact ih (h.after e)

theorem groupLabel?_after (hindex : index < maxGroupLabels) (node : Node) (e : Node.Edit) :
    (node.after e).groupLabel? index =
      (e.given index).elim (node.groupLabel? index) keptName := by
  by_cases hgiven : ∃ name, e = .setGroupLabel index name
  · obtain ⟨name, rfl⟩ := hgiven
    obtain ⟨node', he⟩ : ∃ node', node.setGroupLabel index name = .ok node' := ⟨_, dif_pos hindex⟩
    have hafter : node.after (.setGroupLabel index name) = node' := by
      rw [after, edit, he]
    rw [hafter, groupLabel?_setGroupLabel he, if_pos rfl, Edit.given, if_pos rfl,
      Option.elim_some]
  · have hnone : e.given index = none := by
      cases e with
      | setPattern pattern => rfl
      | setLabel label => rfl
      | setGroupLabel i name =>
          refine if_neg fun hi => hgiven ⟨name, ?_⟩
          rw [hi]
    rw [(frame_after node e).group index fun name heq => hgiven ⟨name, heq⟩, hnone,
      Option.elim_none]

/-- A later name takes the place of an earlier one. -/
theorem lastGiven_cons (index : Nat) (e : Node.Edit) (history : List Node.Edit) :
    lastGiven index (e :: history) = (lastGiven index history).or (e.given index) := by
  rw [lastGiven, List.reverse_cons, List.findSome?_append, List.findSome?_singleton]
  rfl

theorem groupLabel?_replay (hindex : index < maxGroupLabels) (node : Node)
    (history : List Node.Edit) : (node.replay history).groupLabel? index =
      (lastGiven index history).elim (node.groupLabel? index) keptName := by
  induction history generalizing node with
  | nil => rfl
  | cons e es ih =>
      have hrest : (node.replay (e :: es)).groupLabel? index =
          (lastGiven index es).elim ((node.after e).groupLabel? index) keptName := ih (node.after e)
      rw [hrest, groupLabel?_after hindex, lastGiven_cons]
      cases lastGiven index es <;> rfl

/-! ## New nodes -/

theorem groupLabel?_new (pattern : String) (index : Nat) :
    ({ pattern } : Node).groupLabel? index = none := by
  rw [groupLabel?, Vector.getElem?_replicate]
  split <;> rfl

theorem normal_new (pattern : String) : ({ pattern } : Node).Normal where
  label := show Text.Trimmed "" by decide
  name_ne := fun hname => by simp [groupLabel?_new] at hname
  name := fun hname => by simp [groupLabel?_new] at hname

/-- **Nodes stay normal.** Whatever is asked of a new node, answered or refused, its label is
trimmed, and to set it to itself changes nothing. The named groups stand in ascending order, below
four, with names that are trimmed and not empty; the name of a group is what is kept of the one it
was given last. And whatever is asked next changes what it is about and nothing else. -/
theorem replay_stays_normal (pattern : String) (history : List Node.Edit) :
    let node := ({ pattern } : Node).replay history
    Text.Trimmed node.label ∧ node.edit (.setLabel node.label) = .ok node ∧
    node.namedGroups.Pairwise (fun a b => a.1 < b.1) ∧
    (∀ group ∈ node.namedGroups, group.1 < 4 ∧ group.2 ≠ "" ∧ Text.Trimmed group.2) ∧
    (∀ group, group ∈ node.namedGroups ↔ node.groupLabel? group.1 = some group.2) ∧
    (∀ index < 4, node.groupLabel? index = (lastGiven index history).bind keptName) ∧
    ∀ e, Frame e node (node.after e) := by
  intro node
  have hnormal : node.Normal := (normal_new pattern).replay history
  refine ⟨hnormal.label, ?_, node.namedGroups_ascend, fun group hgroup => ?_,
    fun group => mem_namedGroups, fun index hindex => ?_, node.frame_after⟩
  · rw [edit, setLabel, hnormal.label.trim_eq]
  · have hname := mem_namedGroups.1 hgroup
    exact ⟨lt_of_mem_namedGroups hgroup, hnormal.name_ne hname, hnormal.name hname⟩
  · rw [groupLabel?_replay hindex, groupLabel?_new]
    cases lastGiven index history <;> rfl

/-- A group that is named twice, one whose name is taken away again, and one that is not there; the
label has a space of another script around it. -/
theorem replay_stays_normal_busy : ∃ node, node = ({ pattern := "a(b)" } : Node).replay
      [.setGroupLabel 2 " x ", .setLabel "\u3000y z\t", .setGroupLabel 0 "u", .setGroupLabel 4 "v",
        .setGroupLabel 2 "\nw", .setGroupLabel 0 "\u00a0"] ∧
    node.label = "y z" ∧ Text.Trimmed node.label ∧ node.edit (.setLabel node.label) = .ok node ∧
    node.namedGroups = [(2, "w")] ∧ node.groupLabel? 2 = some "w" ∧ node.groupLabel? 0 = none ∧
    Frame (.setPattern "c") node (node.after (.setPattern "c")) := by
  obtain ⟨htrimmed, hself, -, -, -, hlast, hframe⟩ := replay_stays_normal "a(b)"
    [.setGroupLabel 2 " x ", .setLabel "\u3000y z\t", .setGroupLabel 0 "u", .setGroupLabel 4 "v",
      .setGroupLabel 2 "\nw", .setGroupLabel 0 "\u00a0"]
  exact ⟨_, rfl, by decide +kernel, htrimmed, hself, by decide +kernel,
    (hlast 2 (by decide)).trans (by decide +kernel),
    (hlast 0 (by decide)).trans (by decide +kernel), hframe _⟩

end TreeQuery.Node

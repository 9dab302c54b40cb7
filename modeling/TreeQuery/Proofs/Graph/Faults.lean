import TreeQuery.Proofs.Graph.Refusal
import TreeQuery.Proofs.Query.Outcome

set_option autoImplicit false

/-! # Inner look-ups do not fail

Wherever an operation follows a handle that the graph itself holds, it looks the handle up, and a
miss ends it with a fault: the ends of a relation that is created or struck, the relations that a
node lists, the nodes to which they lead, the labels of the nodes that a search visits. Nothing
catches a fault, so an operation that does not end with one has missed nothing on its way. No
operation on a well-formed graph does (`WellFormed.faultless`). -/

namespace TreeQuery.Graph

variable {g : Graph}

/-- No operation meets a fault, whatever it is asked for. -/
structure Faultless [Pattern.Dialect] (g : Graph) : Prop where
  perform : ∀ e fault, (g.perform e).1 ≠ .error (.corrupt fault)
  hasRelationTo : ∀ source target, ∃ answer, g.hasRelationTo source target = .ok answer
  hasRelationFrom : ∀ target source, ∃ answer, g.hasRelationFrom target source = .ok answer
  reachable : ∀ start fault, g.reachable start ≠ .error (.corrupt fault)
  require : ∀ stem, ∀ id ∈ g.nodes.keys, ∃ name, (LabelTable.assign g stem).require id = .ok name
  /-- This includes that every relation that the search reads joins the node that lists it to the
  node that is visited next. -/
  compileFrom : ∀ start config fault, g.compileFrom start config ≠ .error (.graph (.corrupt fault))
  compile : ∀ config fault, g.compile config ≠ .error (.graph (.corrupt fault))

/-! ## Look-ups of listed relations -/

/-- A test of relations that are there runs through. -/
theorem anyRelation_eq {test : Relation → Bool} {ids : List RelationId}
    (h : ∀ r ∈ ids, r ∈ g.relations.keys) :
    g.anyRelation test ids = .ok (ids.any fun r => (g.relations.get? r).any test) := by
  induction ids with
  | nil => rfl
  | cons r rest ih =>
      obtain ⟨relation, hr⟩ := OrderedMap.mem_keys_iff.1 (h r (List.mem_cons_self ..))
      rw [anyRelation, requireRelation_eq_ok_iff.2 hr, List.any_cons, hr, Option.any_some]
      by_cases htest : test relation = true
      · simp [bind, Except.bind, htest]
        rfl
      · simp [bind, Except.bind, htest, ih fun r' hr' => h r' (List.mem_cons_of_mem _ hr')]

/-! ## Reasons of refusals -/

/-- No request is refused because of a fault. -/
theorem refusal?_ne_corrupt (e : Edit) (fault : Fault) : g.refusal? e ≠ some (.corrupt fault) := by
  cases e with
  | editNode id edit =>
      cases edit <;> simp [refusal?, Node.refusal?]
  | _ => simp [refusal?, unknownNode?, unknownRelation?]

namespace WellFormed

theorem perform_ne_corrupt (h : g.WellFormed) (e : Edit) (fault : Fault) :
    (g.perform e).1 ≠ .error (.corrupt fault) := by
  intro hfault
  have hcomes := h.comesTo e
  cases hr : g.refusal? e with
  | none =>
      rw [hr] at hcomes
      obtain ⟨answer, hanswer⟩ := hcomes
      exact absurd (hanswer.symm.trans hfault) (by simp)
  | some error =>
      rw [hr] at hcomes
      have hperform : g.perform e = (.error error, g) := hcomes
      rw [hperform] at hfault
      exact refusal?_ne_corrupt e fault (hr.trans (congrArg some (Except.error.inj hfault)))

theorem exists_hasRelationTo (h : g.WellFormed) (source target : NodeId) :
    ∃ answer, g.hasRelationTo source target = .ok answer := by
  rw [hasRelationTo]
  cases hn : g.nodes.get? source with
  | none => exact ⟨false, rfl⟩
  | some node =>
      exact ⟨_, anyRelation_eq fun r hr => h.incident_live hn r (List.mem_append_right _ hr)⟩

theorem exists_hasRelationFrom (h : g.WellFormed) (target source : NodeId) :
    ∃ answer, g.hasRelationFrom target source = .ok answer := by
  rw [hasRelationFrom]
  cases hn : g.nodes.get? target with
  | none => exact ⟨false, rfl⟩
  | some node =>
      exact ⟨_, anyRelation_eq fun r hr => h.incident_live hn r (List.mem_append_left _ hr)⟩

theorem reachable_ne_corrupt (h : g.WellFormed) (start : NodeId) (fault : Fault) :
    g.reachable start ≠ .error (.corrupt fault) := by
  by_cases hstart : start ∈ g.nodes.keys
  · obtain ⟨reached, hreached, -⟩ := exists_compileFrom h hstart {}
    simp [hreached]
  · simp [reachable_of_not_mem hstart]

theorem compileFrom_ne_corrupt [Pattern.Dialect] (h : g.WellFormed) (start : NodeId)
    (config : Config) (fault : Fault) :
    g.compileFrom start config ≠ .error (.graph (.corrupt fault)) := by
  by_cases hstart : start ∈ g.nodes.keys
  · obtain ⟨reached, -, e, hcompile⟩ := exists_compileFrom h hstart config
    rw [hcompile]
    split <;> simp
  · simp [compileFrom_of_not_mem hstart config]

theorem faultless [Pattern.Dialect] (h : g.WellFormed) : g.Faultless where
  perform := h.perform_ne_corrupt
  hasRelationTo := h.exists_hasRelationTo
  hasRelationFrom := h.exists_hasRelationFrom
  reachable := h.reachable_ne_corrupt
  require := by
    intro stem id hid
    obtain ⟨name, hname⟩ := LabelTable.exists_name?_assign stem hid
    exact ⟨name, by rw [LabelTable.require, hname]⟩
  compileFrom := h.compileFrom_ne_corrupt
  compile := by
    intro config fault
    rw [compile]
    cases g.head with
    | none => simp
    | some head => exact h.compileFrom_ne_corrupt head config fault

end WellFormed

/-- **Inner look-ups do not fail.** No operation on a graph that was built by operations meets a
fault. -/
theorem faultless_of_buildable [Pattern.Dialect] (hg : g.Buildable) : g.Faultless :=
  hg.wellFormed.faultless

theorem faultless_knot : Query.knot.Faultless := faultless_of_buildable Query.buildable_knot

/-- A list that names a relation that is not there would be found out. -/
example : ¬ Faultless { pair with relations := .empty } := fun h => by
  obtain ⟨answer, hanswer⟩ := h.hasRelationTo ⟨0⟩ ⟨1⟩
  cases hanswer

end TreeQuery.Graph

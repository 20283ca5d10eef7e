import ElixirClient.Proofs.Resolver.Resolution

/-!
# Unions of references

What a reference resolves to is flat: it is no union, or a union of nodes that are none
(`flat_of_resolve`). So references may be united in groups first and these united then
(`union_flatMap`): no member is lost or comes twice on the way.
-/

namespace ElixirClient.Resolver

variable {r : Resolver} {node : Node}

theorem flat_of_resolve {ref : TypeRef} (h : r.resolve ref = .ok node) : node.Flat := by
  refine of_resolve (fun kind => ?_) (fun _ _ => .of_single rfl) (fun _ => .of_single rfl)
    (fun _ _ hnodes => .merge hnodes) h
  cases kind <;> exact .of_single rfl

/-- What holds of all nodes of the kinds that references resolve to holds throughout a resolved
type. -/
theorem throughout_of_resolve {P : Node → Prop} (primitive : ∀ kind, P (primitiveNode kind))
    (sequence : ∀ item, P (.sequence item)) (named : ∀ module, P (.named module))
    (union : ∀ members, P (.union members)) {ref : TypeRef} (h : r.resolve ref = .ok node) :
    node.Throughout P := by
  refine of_resolve (fun kind => (Node.throughout_leaf ?_).mpr (primitive kind))
    (fun item hitem => Node.throughout_sequence.mpr ⟨sequence item, hitem⟩)
    (fun module => (Node.throughout_leaf rfl).mpr (named module))
    (fun _ _ hnodes => .merge (primitive .null) union hnodes) h
  cases kind <;> rfl

/-- References are to data. -/
theorem untagged_of_resolve {ref : TypeRef} (h : r.resolve ref = .ok node) : node.Untagged :=
  throughout_of_resolve (P := fun part => part.isOutcome = false) (fun kind => by cases kind <;> rfl)
    (fun _ => rfl) (fun _ => rfl) (fun _ => rfl) h

theorem union_eq_ok {refs : List TypeRef} (h : r.union refs = .ok node) :
    ∃ nodes, refs.mapM r.resolve = .ok nodes ∧ Node.merge nodes = .ok node := by
  rw [union, resolveAll_eq] at h
  exact bind_eq_ok.mp h

/-- The reference resolves to nodes that can be told apart. -/
def Joins (r : Resolver) (ref : TypeRef) : Prop :=
  ∃ node, r.resolve ref = .ok node ∧ ∀ member ∈ node.unionMembers, (Node.key? member).isSome

/-- References have a union if each of them may be a part of one. -/
theorem exists_union_iff {refs : List TypeRef} :
    (∃ node, r.union refs = .ok node) ↔ ∀ ref ∈ refs, r.Joins ref := by
  constructor
  · rintro ⟨node, h⟩ ref href
    obtain ⟨nodes, hnodes, hmerge⟩ := union_eq_ok h
    obtain ⟨inner, hinner, hresolve⟩ := exists_result_of_mapM_eq_ok hnodes ref href
    exact ⟨inner, hresolve, fun member hmember =>
      (Node.merge_eq_ok.mp hmerge).1 member (List.mem_flatMap.mpr ⟨inner, hinner, hmember⟩)⟩
  · intro h
    obtain ⟨nodes, hnodes⟩ := exists_mapM_eq_ok fun ref href => (h ref href).imp fun _ => And.left
    refine ⟨Node.ofUnion (firstOfEach Node.key? (nodes.flatMap Node.unionMembers)), ?_⟩
    rw [union, resolveAll_eq]
    refine bind_eq_ok.mpr ⟨nodes, hnodes, Node.merge_eq_ok.mpr ⟨fun member hmember => ?_, rfl⟩⟩
    obtain ⟨inner, hinner, hmember⟩ := List.mem_flatMap.mp hmember
    obtain ⟨ref, href, hresolve⟩ := exists_mem_of_mapM_eq_ok hnodes inner hinner
    obtain ⟨other, hother, hkeys⟩ := h ref href
    rw [hresolve] at hother
    cases hother
    exact hkeys member hmember

/-- References may be united in groups first: it makes no difference to the union of all of them. -/
theorem union_flatMap {α : Type} {xs : List α} {refsOf : α → List TypeRef} {marker : α → Node}
    (hne : ∀ x ∈ xs, refsOf x ≠ []) (h : ∀ x ∈ xs, r.union (refsOf x) = .ok (marker x)) :
    r.union (xs.flatMap refsOf) = Node.merge (xs.map marker) := by
  have hround : ∀ ref ∈ xs.flatMap refsOf, ∃ inner, r.resolve ref = .ok inner := by
    intro ref href
    obtain ⟨x, hx, href⟩ := List.mem_flatMap.mp href
    obtain ⟨nodes, hnodes, _⟩ := union_eq_ok (h x hx)
    exact exists_of_mapM_eq_ok hnodes ref href
  -- each group resolves, so the whole list does, and every reference has one type
  obtain ⟨nodes, hall⟩ := exists_mapM_eq_ok hround
  obtain ⟨type, htype, rfl⟩ := mapM_eq_ok.mp hall
  have hgroup : ∀ x ∈ xs, ∀ ref ∈ refsOf x, r.resolve ref = .ok (type ref) := fun x hx ref href =>
    htype ref (List.mem_flatMap.mpr ⟨x, hx, href⟩)
  have hmerge : ∀ x ∈ xs, Node.merge ((refsOf x).map type) = .ok (marker x) := by
    intro x hx
    obtain ⟨nodes, hnodes, hmerge⟩ := union_eq_ok (h x hx)
    rw [mapM_of_forall (hgroup x hx)] at hnodes
    rwa [Except.ok.inj hnodes]
  -- merging group by group opens one level of unions, which is all there is
  have hflat : ∀ x ∈ xs, ∀ inner ∈ (refsOf x).map type, inner.Flat := by
    intro x hx inner hinner
    obtain ⟨ref, href, rfl⟩ := List.mem_map.mp hinner
    exact flat_of_resolve (hgroup x hx ref href)
  rw [union, resolveAll_eq, hall, List.map_flatMap]
  show Node.merge _ = _
  exact Node.merge_flatMap hflat (fun x hx => mt List.map_eq_nil_iff.mp (hne x hx)) hmerge

end ElixirClient.Resolver

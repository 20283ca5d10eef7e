import ElixirClient.Proofs.Resolver.Unions
import ElixirClient.Rendering.Operation

/-!
# Regrouping the members of a union

Lists of references are `Interchangeable` if one may stand for the other: they are united in the
same type or end in the same fault, and so does an arm of a return type that is made of them. Adding
references that are in the list already makes an interchangeable list, and so does putting some
neighbours into a union of their own (`union_regroups`).

A group is merged by itself, before the references behind it are looked at. This can show in the
fault if the group cannot be merged, which takes a module that is not called by text.
-/

namespace ElixirClient.Resolver

variable {r : Resolver} {refs again others front ms behind : List TypeRef}

/-- The two lists make the same type, or the same fault, in a union and in an arm. -/
structure Interchangeable (r : Resolver) (refs others : List TypeRef) : Prop where
  union : r.union refs = r.union others
  outcome : ∀ tag, Operation.outcome r tag refs = Operation.outcome r tag others

theorem Interchangeable.of_union (hempty : refs = [] ↔ others = [])
    (h : r.union refs = r.union others) : r.Interchangeable refs others where
  union := h
  outcome tag := by
    unfold Operation.outcome
    simp only [List.isEmpty_iff, hempty, h]

/-! ## References that come again -/

theorem union_append_of_subset (h : again ⊆ refs) : r.union (refs ++ again) = r.union refs := by
  rw [union, union, resolveAll_eq, resolveAll_eq, List.mapM_append]
  cases hrefs : refs.mapM r.resolve with
  | error fault => rfl
  | ok nodes =>
    obtain ⟨type, htype, rfl⟩ := mapM_eq_ok.mp hrefs
    have hagain : again.mapM r.resolve = .ok (again.map type) :=
      mapM_of_forall fun ref href => htype ref (h href)
    rw [hagain]
    exact Node.merge_append_of_subset (List.map_subset type h)

/-! ## References in groups -/

theorem union_append_append (front refs behind : List TypeRef) :
    r.union (front ++ refs ++ behind) = (do
      let first ← front.mapM r.resolve
      let nodes ← refs.mapM r.resolve
      let last ← behind.mapM r.resolve
      Node.merge (first ++ nodes ++ last)) := by
  rw [union, resolveAll_eq, List.mapM_append, List.mapM_append]
  simp only [bind_assoc, pure_bind]

/-- A group of references that have a merge may be opened, whatever stands around it. -/
theorem union_ungroup (hne : ms ≠ [])
    (h : ∀ nodes, ms.mapM r.resolve = .ok nodes → ∃ merged, Node.merge nodes = .ok merged) :
    r.union (front ++ [.union ms] ++ behind) = r.union (front ++ ms ++ behind) := by
  rw [union_append_append, union_append_append]
  refine bind_congr fun first => ?_
  have hgroup : [TypeRef.union ms].mapM r.resolve = do
      let nodes ← ms.mapM r.resolve
      return [← Node.merge nodes] := by
    simp only [List.mapM_cons, List.mapM_nil, resolve_union, bind_assoc, pure_bind]
  rw [hgroup]
  cases hms : ms.mapM r.resolve with
  -- a member that does not resolve ends both unions in its fault, at the same place
  | error fault => rfl
  | ok nodes =>
    obtain ⟨merged, hmerged⟩ := h nodes hms
    have hflat : ∀ node ∈ nodes, node.Flat := by
      intro node hnode
      obtain ⟨ref, _, hround⟩ := exists_mem_of_mapM_eq_ok hms node hnode
      exact flat_of_resolve hround
    have hnodes : nodes ≠ [] := by
      obtain ⟨ref, href⟩ := List.exists_mem_of_ne_nil ms hne
      obtain ⟨node, hnode, _⟩ := exists_result_of_mapM_eq_ok hms ref href
      exact List.ne_nil_of_mem hnode
    have hone : (do return [← Node.merge nodes] : Except Fault (List Node)) = .ok [merged] :=
      bind_eq_of_ok hmerged
    rw [bind_eq_of_ok (a := nodes) rfl, bind_eq_of_ok (a := nodes) rfl, bind_eq_of_ok hone]
    refine bind_congr fun last => ?_
    exact Node.merge_append_merge_append hflat hnodes hmerged first last

/-- The type does not depend on groups, whatever the modules are called by. -/
theorem union_ungroup_eq_ok (hne : ms ≠ []) {node : Node} :
    r.union (front ++ [.union ms] ++ behind) = .ok node ↔
      r.union (front ++ ms ++ behind) = .ok node := by
  have hsame {merged : Node} (h : r.union ms = .ok merged) :
      r.union (front ++ [.union ms] ++ behind) = r.union (front ++ ms ++ behind) := by
    obtain ⟨nodes, hnodes, hmerge⟩ := union_eq_ok h
    refine union_ungroup hne fun others hothers => ?_
    rw [hnodes] at hothers
    exact ⟨merged, Except.ok.inj hothers ▸ hmerge⟩
  constructor
  · intro h
    -- a group that is a member of a union has a type of its own
    obtain ⟨merged, hmerged, _⟩ := exists_union_iff.mp ⟨node, h⟩ (.union ms) (by simp)
    rwa [← hsame (union_eq r ms ▸ hmerged)]
  · intro h
    have hjoins : ∀ ref ∈ ms, r.Joins ref := fun ref href =>
      exists_union_iff.mp ⟨node, h⟩ ref (by simp [href])
    obtain ⟨merged, hmerged⟩ := exists_union_iff.mpr hjoins
    rwa [hsame hmerged]

/-- **Unions are associative and absorbing.** References that come again, and members that are put
into a union of their own, change neither the type that references are united in nor the order of
its members, nor the fault that there is instead: not in the type of a body or of a response, which
are such unions, and not in an arm of a return type. -/
theorem union_regroups (r : Resolver) (a b : List TypeRef) :
    r.Interchangeable (a ++ b ++ a) (a ++ b) ∧
      ∀ ms, ms ≠ [] →
        (∀ node, r.union (a ++ [.union ms] ++ b) = .ok node ↔ r.union (a ++ ms ++ b) = .ok node) ∧
        ((∀ ref ∈ ms, ref.ModulesText) →
          r.Interchangeable (a ++ [.union ms] ++ b) (a ++ ms ++ b)) := by
  constructor
  · refine .of_union (by simp +contextual) ?_
    exact union_append_of_subset (List.subset_append_left a b)
  · refine fun ms hne => ⟨fun node => union_ungroup_eq_ok hne, fun htext => ?_⟩
    refine .of_union (by simp [hne]) ?_
    exact union_ungroup hne fun nodes hnodes => exists_merge htext hnodes

/-- A group with an empty union and a union of one member in it. -/
def mixedGroup : List TypeRef :=
  [.union [], .external (.str "Date"), .union [.schema (.str "pet")], .primitive .string]

theorem union_regroups_mixedGroup :
    mixedGroup ≠ [] ∧ (∀ ref ∈ mixedGroup, ref.ModulesText) ∧
      (Resolver.mk (.str "Example") [("pet", "Pet")]).Interchangeable
        ([.primitive .string] ++ [.union mixedGroup] ++ [.array (.primitive .any)])
        ([.primitive .string] ++ mixedGroup ++ [.array (.primitive .any)]) ∧
      (Resolver.mk (.str "Example") [("pet", "Pet")]).union
          ([.primitive .string] ++ [.union mixedGroup] ++ [.array (.primitive .any)]) =
        .ok (.union [.scalar "string", .scalar "null", .named (.str "Date"),
          .named (.str "Example.Pet"), .sequence (.scalar "any")]) := by
  have hne : mixedGroup ≠ [] := List.cons_ne_nil _ _
  have htext : ∀ ref ∈ mixedGroup, ref.ModulesText := by
    simp [mixedGroup, TypeRef.ModulesText, Json.IsText]
  exact ⟨hne, htext, ((union_regroups _ _ _).2 _ hne).2 htext, by decide +kernel⟩

end ElixirClient.Resolver

import ElixirClient.Proofs.Resolver.Resolution

/-!
# The normal form of types

What a reference resolves to is `Normal`: wherever a union stands in it, the union has at least two
members, no two of one key, and none that is a union itself. A merge opens the unions among its
nodes by one level only, which is enough because the nodes are in normal form already
(`Normal.merge`); with it all types that references resolve to are in normal form
(`normal_of_resolve`).
-/

namespace ElixirClient

namespace Node

/-- The members that a union should have. Nodes of different keys differ, and in more than the
spelling of a number. -/
structure UnionForm (members : List Node) : Prop where
  several : 2 ≤ members.length
  distinct : members.Pairwise fun a b => key? a ≠ key? b
  flat : ∀ member ∈ members, ∀ inner, member ≠ .union inner

/-- All unions in the tree have the members that they should have. -/
def Normal (node : Node) : Prop :=
  node.Throughout fun part => ∀ members, part = .union members → UnionForm members

/-- A union is in normal form by its members, and so is each of them. -/
theorem normal_union {members : List Node} :
    (union members).Normal ↔ UnionForm members ∧ ∀ member ∈ members, member.Normal := by
  rw [Normal, throughout_union]
  refine and_congr_left fun _ => ⟨fun h => h members rfl, ?_⟩
  rintro h _ ⟨⟩
  exact h

theorem normal_sequence {item : Node} : (sequence item).Normal ↔ item.Normal := by
  rw [Normal, throughout_sequence]
  exact and_iff_right fun _ => nofun

/-- A leaf is no union and has none below it. -/
theorem normal_leaf {node : Node} (h : node.isLeaf) : node.Normal := by
  refine (throughout_leaf h).mpr fun members hmembers => ?_
  rw [hmembers] at h
  cases h

/-- The members of a node in normal form are in normal form, and no unions. -/
theorem Normal.unionMembers {node : Node} (h : node.Normal) :
    ∀ member ∈ node.unionMembers, member.Normal ∧ ∀ inner, member ≠ .union inner := by
  cases node with
  | union members =>
    obtain ⟨hmembers, hnormal⟩ := normal_union.mp h
    exact fun member hmember => ⟨hnormal member hmember, hmembers.flat member hmember⟩
  | _ => exact List.forall_mem_singleton.mpr ⟨h, fun _ => nofun⟩

/-- Merging keeps the normal form. -/
theorem Normal.merge {nodes : List Node} (h : ∀ node ∈ nodes, node.Normal) {merged : Node}
    (hmerge : Node.merge nodes = .ok merged) : merged.Normal := by
  have hmembers : ∀ member ∈ firstOfEach key? (nodes.flatMap Node.unionMembers),
      member.Normal ∧ ∀ inner, member ≠ .union inner := by
    intro member hmember
    obtain ⟨node, hnode, hmember⟩ := List.mem_flatMap.mp (mem_of_mem_firstOfEach key? hmember)
    exact (h node hnode).unionMembers member hmember
  have hdistinct := pairwise_firstOfEach key? (nodes.flatMap Node.unionMembers)
  obtain ⟨_, rfl⟩ := merge_eq_ok.mp hmerge
  -- only two members or more make a union
  match firstOfEach key? (nodes.flatMap Node.unionMembers), hmembers, hdistinct with
  | [], _, _ => exact normal_leaf rfl
  | [node], hmembers, _ => exact (hmembers node List.mem_cons_self).1
  | first :: second :: rest, hmembers, hdistinct =>
    refine normal_union.mpr ⟨⟨?_, hdistinct, fun member hmember => (hmembers member hmember).2⟩,
      fun member hmember => (hmembers member hmember).1⟩
    simp

end Node

namespace Resolver

variable {r : Resolver} {ref : TypeRef} {node : Node}

/-- By `of_resolve`: words and modules are leaves, and merges keep the normal form. -/
theorem resolve_normal (h : r.resolve ref = .ok node) : node.Normal := by
  refine of_resolve (fun kind => ?_) (fun _ => Node.normal_sequence.mpr)
    (fun _ => Node.normal_leaf rfl) (fun _ _ hnodes => .merge hnodes) h
  cases kind <;> exact Node.normal_leaf rfl

/-- **Normal form of resolved types.** Whatever the base module and the name table, a type that a
reference resolves to, and one that several references are united in, has at every depth only unions
of two or more members, with different keys and without unions among them. -/
theorem normal_of_resolve (r : Resolver) :
    (∀ ref node, r.resolve ref = .ok node → node.Normal) ∧
      ∀ refs node, r.union refs = .ok node → node.Normal := by
  refine ⟨fun ref node h => resolve_normal h, fun refs node h => ?_⟩
  rw [union_eq] at h
  exact resolve_normal h

/-- Unions in arrays in unions: empty ones, ones with one member, and members that come twice. -/
def nestedUnions : List TypeRef :=
  [.array (.union [.primitive .string, .union [.primitive .null, .union [.primitive .string]]]),
    .union [], .union [.union [.schema (.str "pet")], .primitive .null],
    .array (.union [.union [.primitive .string, .primitive .null]])]

theorem normal_of_resolve_nestedUnions :
    (Resolver.mk (.str "Example") [("pet", "Pet")]).union nestedUnions =
        .ok (.union [.sequence (.union [.scalar "string", .scalar "null"]), .scalar "null",
          .named (.str "Example.Pet")]) ∧
      (Node.union [.sequence (.union [.scalar "string", .scalar "null"]), .scalar "null",
        .named (.str "Example.Pet")]).Normal := by
  have h : (Resolver.mk (.str "Example") [("pet", "Pet")]).union nestedUnions =
      .ok (.union [.sequence (.union [.scalar "string", .scalar "null"]), .scalar "null",
        .named (.str "Example.Pet")]) := by decide +kernel
  exact ⟨h, (normal_of_resolve _).2 _ _ h⟩

end Resolver

end ElixirClient

import ElixirClient.Proofs.Fault.Persists
import ElixirClient.Proofs.Rendering.Artifact
import ElixirClient.Proofs.Resolver.Resolution

/-!
# Scopes that grow

A name table that knows more names makes more references resolve, but none differently: what a
reference resolves to rests on the names in it alone. So an artifact that can be rendered is the
same in every scope that has grown (`Scope.Grows.schema_artifact`,
`Scope.Grows.operation_artifact`); only what failed may come out differently.
-/

namespace ElixirClient

/-- The other scope knows all names of this one, by the same forms. -/
structure Scope.Grows (scope other : Scope) : Prop where
  config : other.config = scope.config
  find? : ∀ raw name, scope.names.find? raw = .ok (some name) →
    other.names.find? raw = .ok (some name)

namespace Scope.Grows

variable {scope other : Scope} (h : scope.Grows other)

include h

/-! ## References -/

/-- A name that is found keeps its module, since both scopes have one base module. The other way
round there is nothing to say: a name that was missing may be found now. -/
theorem moduleName (raw : Json) :
    Persists (scope.resolver.moduleName raw) (other.resolver.moduleName raw) := by
  intro module hmodule
  obtain ⟨name, hname, rfl⟩ := Resolver.moduleName_eq_ok.mp hmodule
  have hbase : other.resolver.baseModule = scope.resolver.baseModule :=
    congrArg Config.baseModule h.config
  exact Resolver.moduleName_eq_ok.mpr ⟨name, h.find? raw name hname, hbase ▸ rfl⟩

/-- Along the structure of the reference. Only the name of a schema asks the scope anything, and
merging a union is a function of what its members resolve to. -/
theorem resolve (ref : TypeRef) :
    Persists (scope.resolver.resolve ref) (other.resolver.resolve ref) := by
  induction ref using TypeRef.induction with
  -- primitive types and external modules are written without asking
  | primitive kind =>
    rw [Resolver.resolve, Resolver.resolve]
    exact .refl _
  | array item ih =>
    rw [Resolver.resolve, Resolver.resolve]
    exact ih.map _
  | schema name =>
    rw [Resolver.resolve, Resolver.resolve]
    exact (h.moduleName name).map _
  | external module =>
    rw [Resolver.resolve, Resolver.resolve]
    exact .refl _
  | union members ih =>
    rw [Resolver.resolve_union, Resolver.resolve_union]
    exact (Persists.mapM ih).bind fun nodes => .refl _
  | stray value =>
    rw [Resolver.resolve, Resolver.resolve]
    exact .refl _

theorem resolveAll (refs : List TypeRef) :
    Persists (scope.resolver.resolveAll refs) (other.resolver.resolveAll refs) := by
  rw [Resolver.resolveAll_eq, Resolver.resolveAll_eq]
  exact .mapM fun ref _ => h.resolve ref

/-- The merge comes after all members, so nothing of it depends on the scope. -/
theorem union (refs : List TypeRef) :
    Persists (scope.resolver.union refs) (other.resolver.union refs) :=
  (h.resolveAll refs).bind fun _ => .refl _

/-! ## Schemas -/

/-- The name of a schema is what the table has for its raw name. -/
theorem normalizedName (schema : Schema) :
    Persists (schema.normalizedName scope) (schema.normalizedName other) := fun name hname =>
  Schema.normalizedName_eq_ok.mpr (h.find? _ name (Schema.normalizedName_eq_ok.mp hname))

/-- A decoder asks for a module only if its property is a reference to a schema. -/
theorem decoder (name : String) (property : Schema) :
    Persists (property.decoder scope name) (property.decoder other name) := by
  unfold Schema.decoder
  simp only
  -- arrays are not decoded, a reference asks for its module, and any other value is taken as it is
  split
  · exact .refl _
  · exact (h.moduleName _).bind fun module => .refl _
  · exact .refl _

/-- A schema that can be rendered looks the same in a scope that knows more. -/
theorem schema_artifact (schema : Schema) :
    Persists (schema.artifact scope) (schema.artifact other) := by
  have htypes : Persists (schema.fieldTypes scope) (schema.fieldTypes other) :=
    .mapM fun entry _ => (h.resolve _).bind fun node => .refl _
  have hdecoders : Persists (schema.decoders scope) (schema.decoders other) :=
    .mapM fun entry _ => (h.decoder entry.1 entry.2).bind fun node => .refl _
  unfold Schema.artifact
  rw [h.config]
  refine (h.normalizedName schema).bind fun name => ?_
  exact htypes.bind fun types => hdecoders.bind fun decoders => .refl _

/-! ## Operations -/

theorem outcome (tag : String) (types : List TypeRef) :
    Persists (Operation.outcome scope.resolver tag types)
      (Operation.outcome other.resolver tag types) :=
  .ite (.refl _) ((h.union types).map _)

/-- The configured error type is the same in both scopes, and is resolved as any other type. -/
theorem errorOutcome (operation : Operation) :
    Persists (operation.errorOutcome scope) (operation.errorOutcome other) := by
  unfold Operation.errorOutcome
  rw [h.config]
  split
  · exact (h.resolve _).map _
  · exact h.outcome _ _

/-- Parameters, body and return type resolve one after the other, and each persists. -/
theorem signature (operation : Operation) :
    Persists (operation.signature scope) (operation.signature other) := by
  have hbody : Persists (operation.bodyTypes scope) (operation.bodyTypes other) :=
    .ite ((h.union _).map _) (.refl _)
  have hreturn : Persists (operation.returnType scope) (operation.returnType other) := by
    rw [Operation.returnType_eq, Operation.returnType_eq]
    exact (h.outcome _ _).bind fun ok => (h.errorOutcome operation).bind fun error => .refl _
  rw [Operation.signature_eq, Operation.signature_eq]
  refine (h.resolveAll _).bind fun params => hbody.bind fun body => ?_
  exact hreturn.bind fun returnType => .refl _

/-- Of all entries of the call, only the tables of request and response resolve anything. -/
theorem call (operation : Operation) :
    Persists (operation.call scope) (operation.call other) := by
  have hrequest : Persists (operation.requestTable scope.resolver)
      (operation.requestTable other.resolver) :=
    (Persists.mapM fun entry _ => (h.resolve _).bind fun node => .refl _).bind fun pairs => .refl _
  have hresponse : Persists (operation.responseTable scope.resolver)
      (operation.responseTable other.resolver) :=
    (Persists.mapM fun entry _ => (h.union _).bind fun node => .refl _).bind fun pairs => .refl _
  unfold Operation.call
  rw [h.config]
  -- only the two tables look at the scope
  refine (Persists.refl _).bind fun arguments => (Persists.refl _).bind fun url => ?_
  refine (Persists.refl _).bind fun body => (Persists.refl _).bind fun query => ?_
  refine (Persists.ite (hrequest.map _) (.refl _)).bind fun request => ?_
  exact (Persists.ite (hresponse.map _) (.refl _)).bind fun response => .refl _

/-- An operation that can be rendered looks the same in a scope that knows more. -/
theorem operation_artifact (operation : Operation) :
    Persists (operation.artifact scope) (operation.artifact other) := by
  refine (h.signature operation).bind fun signature => Persists.bind ?_ fun function => .refl _
  -- arguments and query are made of the operation alone
  refine (Persists.refl _).bind fun arguments => (Persists.refl _).bind fun query => ?_
  exact (h.call operation).bind fun call => .refl _

end Scope.Grows

end ElixirClient

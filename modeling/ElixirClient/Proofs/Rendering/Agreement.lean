import ElixirClient.Proofs.Rendering.Artifact
import ElixirClient.Proofs.Resolver.Leaves

/-!
# Scopes that agree

Rendering asks a name table for names and for nothing else. Two scopes with the same configuration
whose tables find the same names therefore make the same of every schema and every operation
(`Scope.Agrees.schema_artifact`, `Scope.Agrees.operation_artifact`), in whatever order the entries
of the tables are.
-/

namespace ElixirClient

/-- The two scopes answer every question alike. -/
structure Scope.Agrees (scope other : Scope) : Prop where
  config : scope.config = other.config
  find? : ∀ raw, scope.names.find? raw = other.names.find? raw

namespace Scope.Agrees

variable {scope other : Scope} (h : scope.Agrees other)

include h

/-- Two scopes that agree call every schema by one name, or know it by none. -/
theorem normalizedName : Schema.normalizedName scope = Schema.normalizedName other := by
  funext schema
  unfold Schema.normalizedName
  rw [h.find?]

/-- The two resolvers hold nothing but what the scopes agree on, a table and a base module. -/
theorem moduleName : scope.resolver.moduleName = other.resolver.moduleName := by
  funext raw
  have hfind : scope.resolver.names.find? raw = other.resolver.names.find? raw := h.find? raw
  -- the base module is a field of the resolver, but comes from the configuration
  have hbase : scope.resolver.baseModule = other.resolver.baseModule :=
    congrArg Config.baseModule h.config
  unfold Resolver.moduleName
  rw [hfind, hbase]

/-- Resolving is one function in both scopes, faults included. Unlike for scopes that grow, nothing
here depends on whether a reference resolves. -/
theorem resolve : scope.resolver.resolve = other.resolver.resolve := by
  funext ref
  -- a union resolves its members first, so this goes along the reference
  induction ref using TypeRef.induction with
  | primitive kind => rw [Resolver.resolve, Resolver.resolve]
  | array item ih => rw [Resolver.resolve, Resolver.resolve, ih]
  | schema name => rw [Resolver.resolve, Resolver.resolve, h.moduleName]
  | external module => rw [Resolver.resolve, Resolver.resolve]
  | union members ih =>
    rw [Resolver.resolve_union, Resolver.resolve_union, mapM_congr ih]
  | stray value => rw [Resolver.resolve, Resolver.resolve]

theorem resolveAll : scope.resolver.resolveAll = other.resolver.resolveAll := by
  funext refs
  rw [Resolver.resolveAll_eq, Resolver.resolveAll_eq, h.resolve]

theorem union : scope.resolver.union = other.resolver.union := by
  funext refs
  rw [Resolver.union_eq, Resolver.union_eq, h.resolve]

/-- A schema comes out alike in both scopes, as an artifact or as a fault. This is what makes the
order of the entries in a table irrelevant. -/
theorem schema_artifact : Schema.artifact scope = Schema.artifact other := by
  funext schema
  unfold Schema.artifact Schema.fieldTypes Schema.decoders Schema.decoder
  rw [h.normalizedName, h.resolve, h.moduleName, h.config]

/-- An operation comes out alike in both scopes. Its path and its arguments are its own; all else in
it goes through the resolver. -/
theorem operation_artifact : Operation.artifact scope = Operation.artifact other := by
  funext operation
  -- all functions between an operation and the resolver are opened, down to the resolver itself
  unfold Operation.artifact Operation.signature Operation.function Operation.returnType
    Operation.outcome Operation.call Operation.requestTable Operation.responseTable
  rw [h.resolveAll, h.union, h.resolve, h.config]

end Scope.Agrees

end ElixirClient

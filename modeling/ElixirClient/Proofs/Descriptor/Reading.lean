import ElixirClient.Descriptor.Reader
import ElixirClient.Proofs.Fault.Loops
import ElixirClient.Proofs.Rendering.Outcome

/-!
# What is read from a document

Reading makes a reference of everything that it accepts in the place of one, at every depth
(`proper_of_readTypeRef`). So all types of the operations of a document are references
(`proper_of_readDescriptors`).
-/

namespace ElixirClient

/-! ## Type references -/

mutual
/-- By recursion on the value, through all readers that call each other: what is read for a
reference is made of references down to its leaves. -/
theorem proper_of_readTypeRef : (value : Json) → (ref : TypeRef) →
    readTypeRef value = .ok ref → ref.Proper
  | .obj members, ref, h => by
    rw [readTypeRef] at h
    -- a name or a module makes a leaf; a union or the items of an array are read further down
    split at h
    · cases h
      simp [TypeRef.Proper, TypeRef.IsProper]
    · cases h
      simp [TypeRef.Proper, TypeRef.IsProper]
    · obtain ⟨union, hunion, h⟩ := bind_eq_ok.mp h
      cases union with
      | some refs =>
        cases h
        exact TypeRef.proper_union.mpr (proper_of_readUnion? members refs hunion)
      | none =>
        simp only at h
        split at h
        · obtain ⟨item, hitem, h⟩ := bind_eq_ok.mp h
          cases h
          rw [TypeRef.Proper, TypeRef.leaves_array]
          cases item with
          | none => simp [TypeRef.IsProper]
          | some item => exact proper_of_readItems? members item hitem
        · obtain ⟨kind, _, h⟩ := bind_eq_ok.mp h
          cases kind with
          | none => cases h
          | some kind =>
            cases h
            simp [TypeRef.Proper, TypeRef.IsProper]
  | .null, ref, h | .bool _, ref, h | .int _, ref, h | .float _, ref, h | .str _, ref, h
  | .arr _, ref, h => by
    rw [readTypeRef] at h
    · cases h
    · nofun

theorem proper_of_readUnion? : (members : List (String × Json)) → (refs : List TypeRef) →
    readUnion? members = .ok (some refs) → ∀ ref ∈ refs, ref.Proper
  | [], refs, h => by
    rw [readUnion?] at h
    cases h
  | (key, value) :: rest, refs, h => by
    rw [readUnion?] at h
    split at h
    · obtain ⟨others, hothers, h⟩ := map_eq_ok.mp h
      cases h
      exact proper_of_readMembers value refs hothers
    · exact proper_of_readUnion? rest refs h

/-- What a union is made of are the items of a list; no other value yields any. -/
theorem proper_of_readMembers : (value : Json) → (refs : List TypeRef) →
    readMembers value = .ok refs → ∀ ref ∈ refs, ref.Proper
  | .arr items, refs, h => by
    rw [readMembers] at h
    exact proper_of_readAll items refs h
  | .null, refs, h | .bool _, refs, h | .int _, refs, h | .float _, refs, h | .str _, refs, h
  | .obj _, refs, h => by
    rw [readMembers] at h
    · obtain ⟨items, _, h⟩ := bind_eq_ok.mp h
      -- neither a key nor a character is a reference, so only nothing at all can be read here
      cases items with
      | nil =>
        cases h
        nofun
      | cons item rest => cases h
    · nofun

theorem proper_of_readAll : (items : List Json) → (refs : List TypeRef) →
    readAll items = .ok refs → ∀ ref ∈ refs, ref.Proper
  | [], refs, h => by
    rw [readAll] at h
    cases h
    nofun
  | item :: rest, refs, h => by
    rw [readAll] at h
    obtain ⟨first, hfirst, h⟩ := bind_eq_ok.mp h
    obtain ⟨others, hothers, h⟩ := bind_eq_ok.mp h
    cases h
    exact List.forall_mem_cons.mpr
      ⟨proper_of_readTypeRef item first hfirst, proper_of_readAll rest others hothers⟩

/-- Items are one reference, wherever the member stands among the others. -/
theorem proper_of_readItems? : (members : List (String × Json)) → (item : TypeRef) →
    readItems? members = .ok (some item) → item.Proper
  | [], item, h => by
    rw [readItems?] at h
    cases h
  | (key, value) :: rest, item, h => by
    rw [readItems?] at h
    split at h
    · split at h
      · cases h
      · obtain ⟨other, hother, h⟩ := map_eq_ok.mp h
        cases h
        exact proper_of_readTypeRef value item hother
    · exact proper_of_readItems? rest item h
end

/-! ## Operations -/

/-- A parameter without a type is of any type, and that is a reference too. -/
theorem proper_of_readParam {item : Json} {param : Param} (h : readParam item = .ok param) :
    param.type.Proper := by
  unfold readParam at h
  split at h
  · cases h
  · simp only at h
    split at h
    · next type htype =>
      cases h
      exact proper_of_readTypeRef _ type htype
    · cases h
    · cases h

theorem proper_of_readParams {members : List (String × Json)} {key : String} {params : List Param}
    (h : readParams members key = .ok params) : ∀ param ∈ params, param.type.Proper := by
  obtain ⟨items, _, h⟩ := bind_eq_ok.mp h
  intro param hparam
  obtain ⟨item, _, hitem⟩ := exists_mem_of_mapM_eq_ok h param hparam
  exact proper_of_readParam hitem

/-- Of a body only the type is looked at, the content type may be any value. -/
theorem proper_of_readBody {value : Json} {body : Json × TypeRef} (h : readBody value = .ok body) :
    body.2.Proper := by
  obtain ⟨items, _, h⟩ := bind_eq_ok.mp h
  split at h
  · obtain ⟨type, htype, h⟩ := bind_eq_ok.mp h
    cases h
    exact proper_of_readTypeRef _ type htype
  · cases h

theorem proper_of_readContent {value : Json} {content : Content}
    (h : readContent value = .ok content) : ∀ entry ∈ content, entry.2.Proper := by
  unfold readContent at h
  split at h
  · intro entry hentry
    obtain ⟨member, _, hmember⟩ := exists_mem_of_mapM_eq_ok h entry hentry
    obtain ⟨type, htype, hpair⟩ := bind_eq_ok.mp hmember
    cases hpair
    exact proper_of_readTypeRef _ type htype
  · cases h

/-- A response takes the place of another or comes to the end; nothing else is new. -/
theorem mem_insertResponse {status : Status} {content : Content}
    {responses : List (Status × Content)} {response : Status × Content}
    (h : response ∈ insertResponse status content responses) :
    response.2 = content ∨ response ∈ responses := by
  induction responses with
  | nil => exact .inl (List.mem_singleton.mp h ▸ rfl)
  | cons first rest ih =>
    rw [insertResponse] at h
    split at h
    · rcases List.mem_cons.mp h with rfl | h
      · exact .inl rfl
      · exact .inr (List.mem_cons_of_mem _ h)
    · rcases List.mem_cons.mp h with rfl | h
      · exact .inr List.mem_cons_self
      · exact (ih h).imp_right (List.mem_cons_of_mem _)

/-- All types of the responses are references. -/
def ProperResponses (responses : List (Status × Content)) : Prop :=
  ∀ response ∈ responses, ∀ entry ∈ response.2, entry.2.Proper

/-- By induction along the loop: a response that is inserted keeps what is known of the others. -/
theorem proper_of_readResponses {value : Json} {responses : List (Status × Content)}
    (h : readResponses value = .ok responses) : ProperResponses responses := by
  unfold readResponses at h
  split at h
  · have hstart : ProperResponses [] := nofun
    refine of_foldlM_eq_ok (fun done hdone member _ next hnext => ?_) hstart h
    obtain ⟨status, _, hnext⟩ := bind_eq_ok.mp hnext
    obtain ⟨content, hcontent, hnext⟩ := bind_eq_ok.mp hnext
    cases hnext
    intro response hresponse
    rcases mem_insertResponse hresponse with hsame | hold
    · rw [hsame]
      exact proper_of_readContent hcontent
    · exact hdone response hold
  · cases h

theorem proper_of_readOperation {value : Json} {operation : Operation}
    (h : readOperation value = .ok operation) : ∀ ref ∈ operation.refs, ref.Proper := by
  unfold readOperation at h
  split at h
  · obtain ⟨functionName, _, h⟩ := bind_eq_ok.mp h
    obtain ⟨moduleName, _, h⟩ := bind_eq_ok.mp h
    obtain ⟨methodValue, _, h⟩ := bind_eq_ok.mp h
    obtain ⟨method, _, h⟩ := bind_eq_ok.mp h
    obtain ⟨path, _, h⟩ := bind_eq_ok.mp h
    obtain ⟨bodies, _, h⟩ := bind_eq_ok.mp h
    obtain ⟨requestBody, hrequestBody, h⟩ := bind_eq_ok.mp h
    obtain ⟨responses, hresponses, h⟩ := bind_eq_ok.mp h
    obtain ⟨pathParams, hpathParams, h⟩ := bind_eq_ok.mp h
    obtain ⟨queryParams, _, h⟩ := bind_eq_ok.mp h
    cases h
    -- the references are those of parameters, of bodies and of responses, each read by its own
    -- reader
    intro ref href
    rcases List.mem_append.mp href with href | href
    · rcases List.mem_append.mp href with href | href
      · obtain ⟨param, hparam, rfl⟩ := List.mem_map.mp href
        exact proper_of_readParams hpathParams param hparam
      · obtain ⟨body, hbody, rfl⟩ := List.mem_map.mp href
        obtain ⟨item, _, hitem⟩ := exists_mem_of_mapM_eq_ok hrequestBody body hbody
        exact proper_of_readBody hitem
    · obtain ⟨response, hresponse, href⟩ := List.mem_flatMap.mp href
      obtain ⟨entry, hentry, rfl⟩ := List.mem_map.mp href
      exact proper_of_readResponses hresponses response hresponse entry hentry
  · cases h

/-- All types of the operations of a document are references. -/
theorem proper_of_readDescriptors {document : Json} {descriptors : Descriptors}
    (h : readDescriptors document = .ok descriptors) :
    ∀ operation ∈ descriptors.operations, ∀ ref ∈ operation.refs, ref.Proper := by
  unfold readDescriptors at h
  split at h
  · obtain ⟨schemaValues, _, h⟩ := bind_eq_ok.mp h
    obtain ⟨schemas, _, h⟩ := bind_eq_ok.mp h
    obtain ⟨operationValues, _, h⟩ := bind_eq_ok.mp h
    obtain ⟨operations, hoperations, h⟩ := bind_eq_ok.mp h
    cases h
    intro operation hmem
    obtain ⟨value, _, hvalue⟩ := exists_mem_of_mapM_eq_ok hoperations operation hmem
    exact proper_of_readOperation hvalue
  · cases h

end ElixirClient

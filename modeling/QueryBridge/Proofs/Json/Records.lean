import QueryBridge.Json.Decode

set_option autoImplicit false

namespace QueryBridge.Json

variable {σ : Type}

/-- The members, in the order of the fields, lead from one state of the record to another. A field that is not
required may have no member. -/
inductive Fills : List (RecordField σ) → List (String × Json) → σ → σ → Prop
  | done {x : σ} : Fills [] [] x x
  | written {f : RecordField σ} {fields : List (RecordField σ)} {members : List (String × Json)} {j : Json}
    {x y z : σ} (read : f.read j x = .ok y) (rest : Fills fields members y z) :
    Fills (f :: fields) ((f.key, j) :: members) x z
  | missing {f : RecordField σ} {fields : List (RecordField σ)} {members : List (String × Json)} {x z : σ}
    (spare : f.required = false) (rest : Fills fields members x z) : Fills (f :: fields) members x z

variable {f : RecordField σ} {fields known : List (RecordField σ)} {members : List (String × Json)} {x y z : σ}
  {present : List String}

theorem Fills.optional (put : σ → Option String → σ) {o : Option String} (spare : f.required = false)
    (read : ∀ j x, f.read j x = do return put x (← decodeOption decodeString j)) (unset : put x none = x)
    (rest : Fills fields members (put x o) z) : Fills (f :: fields) (optionalMember f.key o ++ members) x z := by
  cases o with
  | none =>
    rw [unset] at rest
    exact .missing spare rest
  | some s => exact .written (read (.string s) x) rest

theorem Fills.optional_last (put : σ → Option String → σ) {o : Option String} (spare : f.required = false)
    (read : ∀ j x, f.read j x = do return put x (← decodeOption decodeString j)) (unset : put x none = x) :
    Fills [f] (optionalMember f.key o) x (put x o) := by
  simpa using Fills.optional put spare read unset (.done (x := put x o))

theorem find?_key (distinct : (known.map (·.key)).Nodup) (mem : f ∈ known) :
    known.find? (·.key == f.key) = some f := by
  induction known with
  | nil => cases mem
  | cons g known ih =>
    obtain ⟨other, distinct⟩ := List.nodup_cons.1 distinct
    rcases List.mem_cons.1 mem with rfl | mem
    · exact List.find?_cons_of_pos (beq_self_eq_true _)
    · have differ : g.key ≠ f.key := fun same => other (List.mem_map.2 ⟨f, mem, same.symm⟩)
      rw [List.find?_cons_of_neg (by simpa using differ), ih distinct mem]

theorem Fills.decodeMembers_eq (h : Fills fields members x z) (distinct : (known.map (·.key)).Nodup)
    (among : fields ⊆ known) (apart : (fields.map (·.key)).Nodup) (fresh : ∀ f ∈ fields, f.key ∉ present) :
    ∃ present', decodeMembers known present x (members.map fun m => (.string m.1, m.2)) = .ok (present', z) ∧
      present ⊆ present' ∧ ∀ f ∈ fields, f.required → f.key ∈ present' := by
  induction h generalizing present with
  | done => exact ⟨present, rfl, List.Subset.refl _, nofun⟩
  | @written f fields members j x y z read rest ih =>
    obtain ⟨alone, apart⟩ := List.nodup_cons.1 apart
    obtain ⟨new, later⟩ := List.forall_mem_cons.1 fresh
    have still : ∀ g ∈ fields, g.key ∉ f.key :: present := fun g mem =>
      List.not_mem_cons_of_ne_of_not_mem (fun same => alone (List.mem_map.2 ⟨g, mem, same⟩)) (later g mem)
    obtain ⟨present', run, kept, needed⟩ := ih (List.subset_of_cons_subset among) apart still
    refine ⟨present', ?_, List.subset_of_cons_subset kept,
      List.forall_mem_cons.2 ⟨fun _ => kept List.mem_cons_self, needed⟩⟩
    have unmet : present.contains f.key = false := by simpa using new
    have step : decodeMembers known present x (((f.key, j) :: members).map fun m => (.string m.1, m.2))
        = decodeMembers known (f.key :: present) y (members.map fun m => (.string m.1, m.2)) := by
      simp only [List.map_cons, decodeMembers, decodeKey, bind, Except.bind,
        find?_key distinct (among List.mem_cons_self), unmet, Bool.false_eq_true, if_false, read]
    rw [step, run]
  | missing spare rest ih =>
    obtain ⟨present', run, kept, needed⟩ := ih (List.subset_of_cons_subset among) (List.nodup_cons.1 apart).2
      (List.forall_mem_cons.1 fresh).2
    exact ⟨present', run, kept, List.forall_mem_cons.2 ⟨fun required => by simp [spare] at required, needed⟩⟩

theorem requireds_eq (h : ∀ f ∈ fields, f.required → f.key ∈ present) :
    fields.forM (·.required? present) = (.ok () : Decoded PUnit) := by
  induction fields with
  | nil => rfl
  | cons f fields ih =>
    obtain ⟨first, rest⟩ := List.forall_mem_cons.1 h
    have met : f.required? present = .ok () := by
      unfold RecordField.required?
      split
      · simp_all
      · rfl
    change (f.required? present >>= fun _ => fields.forM (·.required? present)) = _
    rw [met]
    exact ih rest

theorem Fills.decodeRecord_eq (name : String) (h : Fills fields members x z)
    (distinct : (fields.map (·.key)).Nodup) : decodeRecord name fields x (record members) = .ok z := by
  obtain ⟨present, run, -, needed⟩ := h.decodeMembers_eq distinct (List.Subset.refl _) distinct
    (fun f _ => List.not_mem_nil)
  rw [record, decodeRecord, run]
  change (close none () >>= fun _ => fields.forM (·.required? present) >>= fun _ => pure z) = .ok z
  rw [requireds_eq needed]
  rfl

theorem decodeItems_map {α : Type} {decode : Json → Decoded α} {write : α → Json} {xs : List α}
    (h : ∀ a ∈ xs, decode (write a) = .ok a) : decodeItems decode (xs.map write) = .ok xs := by
  induction xs with
  | nil => rfl
  | cons a xs ih =>
    obtain ⟨first, rest⟩ := List.forall_mem_cons.1 h
    rw [List.map_cons, decodeItems, first, ih rest]
    rfl

theorem decodeList_map {α : Type} {decode : Json → Decoded α} {write : α → Json}
    (h : ∀ a, decode (write a) = .ok a) (xs : List α) : decodeList decode (list (xs.map write)) = .ok xs := by
  rw [list, decodeList, decodeItems_map fun a _ => h a]
  rfl

theorem read_value {α : Type} {d : Decoded α} {a : α} (h : d = .ok a) (put : α → σ) :
    (do return put (← d)) = (.ok (put a) : Decoded σ) := by
  rw [h]
  rfl

end QueryBridge.Json

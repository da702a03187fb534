import QueryDispatch.Runner.Builtin

/-! # What calls leave in a registry

  A call registers its entries one after the other, up to the first one whose
  type is taken. So a call about one entry is done or changes nothing. The
  bundled runners are two entries, and the first of them stays when the second
  is refused. An entry is never taken out or replaced, so each type is served by
  the entry that was registered for it first.
-/

namespace QueryDispatch

/-- A call that registers runner types. -/
inductive RegistryCall where
  | register (d : Descriptor)
  | registerBuiltin

/-- The entries that a call is about, in their order. -/
def RegistryCall.descriptors : RegistryCall → List Descriptor
  | .register d => [d]
  | .registerBuiltin => [.warehouse, .timeSeries]

/-- Their types are different. -/
theorem RegistryCall.nodup_types (c : RegistryCall) : (c.descriptors.map (·.type)).Nodup := by
  match c with
  | .register d => exact List.pairwise_singleton _ d.type
  | .registerBuiltin => decide

theorem Assoc.find?_append {α β : Type} [DecidableEq α] (a b : Assoc α β) (key : α) :
    find? (a ++ b) key = (find? a key).or (find? b key) := by
  induction a with
  | nil => rfl
  | cons entry rest ih =>
    obtain ⟨k, v⟩ := entry
    rw [List.cons_append, find?, find?, ih]
    split <;> rfl

namespace Registry

variable {r : Registry} {d : Descriptor} {ds : List Descriptor} {c : RegistryCall}
  {e : RegistryError} {type : String}

/-! ### Calls -/

/-- What a call answers, and the registry that it leaves. -/
def perform (r : Registry) : RegistryCall → Except RegistryError Unit × Registry
  | .register d =>
    match r.register d with
    | .ok next => (.ok (), next)
    | .error e => (.error e, r)
  | .registerBuiltin => r.registerBuiltin

/-- The registry after some calls. -/
def run (r : Registry) (calls : List RegistryCall) : Registry :=
  calls.foldl (fun r c => (r.perform c).2) r

/-! ### One entry -/

/-- The registry with more entries. -/
def extend (r : Registry) (ds : List Descriptor) : Registry :=
  ⟨r.descriptors ++ ds.map fun d => (d.type, d)⟩

theorem extend_nil (r : Registry) : r.extend [] = r := by
  unfold extend
  rw [List.map_nil, List.append_nil]

theorem extend_append (r : Registry) (ds more : List Descriptor) :
    r.extend (ds ++ more) = (r.extend ds).extend more := by
  unfold extend
  rw [List.map_append, List.append_assoc]

theorem get?_extend (r : Registry) (ds : List Descriptor) (type : String) :
    (r.extend ds).get? type = (r.get? type).or (ds.find? fun d => d.type = type) := by
  have hnew : Assoc.find? (ds.map fun d => (d.type, d)) type =
      ds.find? fun d => d.type = type := by
    induction ds with
    | nil => rfl
    | cons d rest ih =>
      rw [List.map_cons, Assoc.find?, ih, List.find?_cons]
      by_cases htype : d.type = type <;> simp [htype]
  unfold get? extend
  rw [Assoc.find?_append, hnew]

theorem get?_extend_of_ne (h : d.type ≠ type) : (r.extend [d]).get? type = r.get? type := by
  rw [get?_extend, List.find?_singleton, decide_eq_false h]
  exact Option.or_none

/-- An entry whose type is free is added, and one whose type is taken is refused. -/
theorem register_eq (r : Registry) (d : Descriptor) :
    r.register d =
      match r.get? d.type with
      | none => .ok (r.extend [d])
      | some _ => .error (.duplicate d.type) := by
  unfold register contains
  cases hget : r.get? d.type with
  | some held => rfl
  | none =>
    rw [Assoc.put_of_find?_eq_none hget]
    rfl

/-! ### Entries one after the other -/

/-- Registers entries up to the first one that is refused. -/
def registerEach (r : Registry) : List Descriptor → Except RegistryError Unit × Registry
  | [] => (.ok (), r)
  | d :: rest =>
    match r.register d with
    | .error e => (.error e, r)
    | .ok next => next.registerEach rest

/-- The entries that it registers. -/
def registered (r : Registry) : List Descriptor → List Descriptor
  | [] => []
  | d :: rest =>
    match r.register d with
    | .error _ => []
    | .ok next => d :: next.registered rest

/-- That is what every call does with its entries. -/
theorem perform_eq (r : Registry) (c : RegistryCall) :
    r.perform c = r.registerEach c.descriptors := by
  match c with
  | .register d =>
    show (match r.register d with | .ok next => _ | .error e => _) = registerEach r [d]
    unfold registerEach
    cases r.register d <;> rfl
  | .registerBuiltin =>
    show r.registerBuiltin = registerEach r [.warehouse, .timeSeries]
    unfold registerBuiltin registerEach
    cases r.register .warehouse with
    | error e => rfl
    | ok next =>
      unfold registerEach
      cases next.register .timeSeries <;> rfl

section

variable (r d)

theorem registerEach_of_none (h : r.get? d.type = none) (rest : List Descriptor) :
    r.registerEach (d :: rest) = (r.extend [d]).registerEach rest := by
  rw [registerEach, register_eq, h]

theorem registerEach_of_some {held : Descriptor} (h : r.get? d.type = some held)
    (rest : List Descriptor) :
    r.registerEach (d :: rest) = (.error (.duplicate d.type), r) := by
  rw [registerEach, register_eq, h]

theorem registered_of_none (h : r.get? d.type = none) (rest : List Descriptor) :
    r.registered (d :: rest) = d :: (r.extend [d]).registered rest := by
  rw [registered, register_eq, h]

theorem registered_of_some {held : Descriptor} (h : r.get? d.type = some held)
    (rest : List Descriptor) : r.registered (d :: rest) = [] := by
  rw [registered, register_eq, h]

end

/-- Nothing else happens to the registry. -/
theorem registerEach_snd (r : Registry) (ds : List Descriptor) :
    (r.registerEach ds).2 = r.extend (r.registered ds) := by
  induction ds generalizing r with
  | nil => exact r.extend_nil.symm
  | cons d rest ih =>
    cases hget : r.get? d.type with
    | some held => rw [registerEach_of_some r d hget, registered_of_some r d hget, extend_nil]
    | none =>
      rw [registerEach_of_none r d hget, registered_of_none r d hget, ih]
      exact (r.extend_append [d] _).symm

/-- Entries with different types are all registered if their types are free. -/
theorem registerEach_fst_eq_ok_iff (hds : (ds.map (·.type)).Nodup) :
    (r.registerEach ds).1 = .ok () ↔ ∀ d ∈ ds, r.get? d.type = none := by
  induction ds generalizing r with
  | nil => exact iff_of_true rfl fun _ h => absurd h List.not_mem_nil
  | cons d rest ih =>
    rw [List.map_cons, List.nodup_cons] at hds
    obtain ⟨hfirst, hrest⟩ := hds
    rw [List.forall_mem_cons]
    cases hget : r.get? d.type with
    | some held =>
      rw [registerEach_of_some r d hget]
      simp
    | none =>
      -- the first entry takes none of the types of the others
      have hsame : ∀ x ∈ rest, (r.extend [d]).get? x.type = r.get? x.type := by
        intro x hx
        apply get?_extend_of_ne
        intro heq
        exact hfirst (heq ▸ List.mem_map_of_mem hx)
      rw [registerEach_of_none r d hget, ih hrest]
      constructor
      · intro hall
        exact ⟨rfl, fun x hx => hsame x hx ▸ hall x hx⟩
      · intro hall x hx
        rw [hsame x hx, hall.2 x hx]

theorem registered_of_ok (h : (r.registerEach ds).1 = .ok ()) : r.registered ds = ds := by
  induction ds generalizing r with
  | nil => rfl
  | cons d rest ih =>
    cases hget : r.get? d.type with
    | some held =>
      rw [registerEach_of_some r d hget] at h
      nomatch h
    | none =>
      rw [registerEach_of_none r d hget] at h
      rw [registered_of_none r d hget, ih h]

/-- Where one entry is refused, nothing has changed. -/
theorem registerEach_singleton_of_error (h : (r.registerEach [d]).1 = .error e) :
    (r.registerEach [d]).2 = r ∧ e = .duplicate d.type := by
  cases hget : r.get? d.type with
  | some held =>
    rw [registerEach_of_some r d hget] at h ⊢
    exact ⟨rfl, (Except.error.inj h).symm⟩
  | none =>
    rw [registerEach_of_none r d hget] at h
    nomatch h

/-! ### One call -/

theorem perform_snd (r : Registry) (c : RegistryCall) :
    (r.perform c).2 = r.extend (r.registered c.descriptors) := by
  rw [perform_eq, registerEach_snd]

theorem perform_fst_eq_ok_iff :
    (r.perform c).1 = .ok () ↔ ∀ d ∈ c.descriptors, r.get? d.type = none := by
  rw [perform_eq]
  exact registerEach_fst_eq_ok_iff c.nodup_types

theorem get?_perform_of_ok (h : (r.perform c).1 = .ok ()) (type : String) :
    (r.perform c).2.get? type =
      (r.get? type).or (c.descriptors.find? fun d => d.type = type) := by
  rw [perform_eq] at h
  rw [perform_snd, registered_of_ok h, get?_extend]

/-- A call that is refused changes nothing, unless it is the one about the bundled runners and the
    type of the first of them is free: that one is registered before the second is refused. -/
theorem perform_of_error (h : (r.perform c).1 = .error e) :
    (r.perform c).2 = r ∧ ¬(c = .registerBuiltin ∧ r.get? "exasol" = none) ∨
      (c = .registerBuiltin ∧ r.get? "exasol" = none) ∧ e = .duplicate "prometheus" ∧
        (r.perform c).2 = r.extend [.warehouse] := by
  rw [perform_eq] at h ⊢
  match c with
  | .register d =>
    have hsame := (registerEach_singleton_of_error h).1
    exact .inl ⟨hsame, fun hc => nomatch hc.1⟩
  | .registerBuiltin =>
    unfold RegistryCall.descriptors at h ⊢
    cases hget : r.get? "exasol" with
    | some held =>
      rw [registerEach_of_some r .warehouse hget]
      exact .inl ⟨rfl, fun hc => nomatch hc.2⟩
    | none =>
      rw [registerEach_of_none r .warehouse hget] at h ⊢
      -- the second one is refused by the registry that has the first one already
      obtain ⟨hsame, he⟩ := registerEach_singleton_of_error h
      exact .inr ⟨⟨rfl, rfl⟩, he, hsame⟩

/-! ### Many calls -/

/-- The entries that calls registered, in the order of their registration. -/
def registrations (r : Registry) : List RegistryCall → List Descriptor
  | [] => []
  | c :: rest => r.registered c.descriptors ++ (r.perform c).2.registrations rest

/-- Calls only add entries. -/
theorem run_eq (r : Registry) (calls : List RegistryCall) :
    r.run calls = r.extend (r.registrations calls) := by
  induction calls generalizing r with
  | nil => exact r.extend_nil.symm
  | cons c rest ih =>
    show (r.perform c).2.run rest = _
    rw [ih, perform_snd, registrations, perform_snd, extend_append]

/-- In a registry that any calls have made, a call is done when all its types are free, and then
    adds its own entries and nothing else. A call that is refused changes nothing. Only the bundled
    runners are registered one by one, so when the type of the warehouse runner is free, that
    runner is there after the other one was refused. Each type is served by the entry that was
    registered for it first. -/
theorem calls_register_entries (calls : List RegistryCall) (c : RegistryCall) :
    let r := empty.run calls
    let answer := (r.perform c).1
    let next := (r.perform c).2
    (answer = .ok () ↔ ∀ d ∈ c.descriptors, r.get? d.type = none) ∧
    (answer = .ok () →
      ∀ type, next.get? type =
        (r.get? type).or (c.descriptors.find? fun d => d.type = type)) ∧
    (∀ e, answer = .error e →
      next = r ∧ ¬(c = .registerBuiltin ∧ r.get? "exasol" = none) ∨
        (c = .registerBuiltin ∧ r.get? "exasol" = none) ∧ e = .duplicate "prometheus" ∧
          ∀ type, next.get? type =
            if type = "exasol" then some .warehouse else r.get? type) ∧
    ∀ type,
      r.get? type = (empty.registrations calls).find? (fun d => d.type = type) ∧
      ∀ options, r.build type options =
        match (empty.registrations calls).find? fun d => d.type = type with
        | some d => (d.build options).mapError .build
        | none => .error (.unknownType type) := by
  intro r answer next
  refine ⟨perform_fst_eq_ok_iff, get?_perform_of_ok, ?_, ?_⟩
  · intro e he
    obtain hsame | ⟨hc, hname, hnext⟩ := perform_of_error he
    · exact .inl hsame
    · refine .inr ⟨hc, hname, ?_⟩
      intro type
      show (r.perform c).2.get? type = _
      rw [hnext]
      by_cases htype : type = "exasol"
      · rw [if_pos htype, get?_extend, htype, hc.2]
        rfl
      · rw [if_neg htype]
        exact get?_extend_of_ne fun h => htype h.symm
  · intro type
    have hget : r.get? type =
        (empty.registrations calls).find? fun d => d.type = type := by
      show (empty.run calls).get? type = _
      rw [run_eq, get?_extend]
      rfl
    refine ⟨hget, ?_⟩
    intro options
    unfold build find
    rw [hget]
    cases (empty.registrations calls).find? fun d => d.type = type <;> rfl

/-- The bundled runners are registered in a registry without entries. -/
theorem calls_register_entries_bundled :
    (empty.perform .registerBuiltin).1 = .ok () ∧
      (empty.perform .registerBuiltin).2.get? "prometheus" = some .timeSeries := by
  obtain ⟨hdone, hadded, -, -⟩ := calls_register_entries [] .registerBuiltin
  have hok := hdone.mpr fun d _ => rfl
  exact ⟨hok, (hadded hok "prometheus").trans rfl⟩

/-- The call about the bundled runners fails, and it has registered the first of them. -/
theorem refused_call_adds_entry :
    let r := empty.run [.register .timeSeries]
    (r.perform .registerBuiltin).1 = .error (.duplicate "prometheus") ∧
      r.get? "exasol" = none ∧
      (r.perform .registerBuiltin).2.get? "exasol" = some .warehouse :=
  ⟨rfl, rfl, rfl⟩

end Registry

end QueryDispatch

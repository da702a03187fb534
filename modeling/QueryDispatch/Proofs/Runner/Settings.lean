import QueryDispatch.Proofs.Data.Chains
import QueryDispatch.Proofs.Json.Entries
import QueryDispatch.Runner.Builtin

/-! # Checked options and settings

  Options are checked twice: against their description, and when the settings
  are read from them. The description knows the JSON types of the options only.
  The two checks agree wherever every value of a described type can be read,
  which fails for a port beyond 16 bits.
-/

namespace QueryDispatch

/-! ### What a check says -/

namespace OptionsSchema

variable {schema : OptionsSchema} {options : Json} {fields : JsonFields} {name : String}
  {value : Json}

theorem get?_of_given? (h : given? fields name = some value) :
    fields.get? name = some value ∧ value.isNull = false := by
  obtain ⟨v, hv, h⟩ := Option.bind_eq_some_iff.mp h
  cases hnull : v.isNull with
  | true =>
    rw [hnull] at h
    cases h
  | false =>
    rw [hnull] at h
    obtain rfl := Option.some.inj h
    exact ⟨hv, hnull⟩

theorem missing_eq_nil_iff : schema.missing fields = [] ↔
    ∀ name ∈ schema.required, ∃ value, given? fields name = some value := by
  unfold missing
  rw [List.filter_eq_nil_iff]
  simp only [Option.isNone_iff_eq_none, ← Option.isSome_iff_ne_none, Option.isSome_iff_exists]

theorem misfit?_eq_none_iff :
    schema.misfit? fields = none ↔ ∀ entry ∈ fields, schema.fits entry.1 entry.2 = true := by
  unfold misfit?
  rw [List.findSome?_eq_none_iff]
  constructor
  · intro h entry hentry
    have hnone := h entry hentry
    unfold fits at hnone ⊢
    cases hlookup : schema.properties.lookup entry.1 with
    | none => rfl
    | some d =>
      simp only [hlookup, Option.map_some] at hnone ⊢
      split at hnone
      · assumption
      · cases hnone
  · intro h entry hentry
    exact if_pos (h entry hentry)

theorem check_object_iff : schema.check (.object fields) = .ok () ↔
    (∀ name ∈ schema.required, ∃ value, given? fields name = some value) ∧
      ∀ entry ∈ fields, schema.fits entry.1 entry.2 = true := by
  rw [← missing_eq_nil_iff, ← misfit?_eq_none_iff]
  simp only [check]
  cases hmissing : schema.missing fields with
  | cons name rest => simp
  | nil =>
    cases hmisfit : schema.misfit? fields with
    | none => simp
    | some found => simp

/-- Where something is required, only an object passes. -/
theorem object_of_check (hrequired : name ∈ schema.required) (h : schema.check options = .ok ()) :
    ∃ fields, options = .object fields := by
  cases options with
  | object fields => exact ⟨fields, rfl⟩
  | null =>
    have hempty : schema.check (.object []) = .ok () := h
    obtain ⟨value, hvalue⟩ := (check_object_iff.mp hempty).1 name hrequired
    cases hvalue
  | bool _ => cases h
  | number _ => cases h
  | string _ => cases h
  | array _ => cases h

/-- What is given for a described option is of its type. -/
theorem accepts_of_check {d : OptionDescription} (h : schema.check (.object fields) = .ok ())
    (hd : schema.properties.lookup name = some d) (hget : fields.get? name = some value)
    (hnull : value.isNull = false) : d.type.accepts value = true := by
  have hfits := (check_object_iff.mp h).2 _ (JsonFields.mem_of_get? hget)
  unfold fits at hfits
  simpa [hd, hnull] using hfits

end OptionsSchema

/-! ### Reading what was checked -/

/-- Every value of a type of options can be read. -/
def OptionType.Reads (type : OptionType) (α : Type) [Wire α] : Prop :=
  ∀ value, type.accepts value = true → ∃ a : α, Wire.decode? value = some a

namespace OptionType

theorem reads_string : string.Reads String := by
  intro value h
  cases value with
  | string text => exact ⟨text, rfl⟩
  | _ => cases h

theorem reads_boolean : boolean.Reads Bool := by
  intro value h
  cases value with
  | bool b => exact ⟨b, rfl⟩
  | _ => cases h

theorem Reads.option {type : OptionType} {α : Type} [Wire α] (h : type.Reads α) :
    type.Reads (Option α) := by
  intro value haccepts
  obtain ⟨a, ha⟩ := h value haccepts
  refine ⟨some a, ?_⟩
  cases value with
  | null => cases type <;> cases haccepts
  | _ => exact congrArg (Option.map some) ha

end OptionType

theorem Wire.integer?_eq_some_iff {low high i : Int} {value : Json} :
    Wire.integer? low high value = some i ↔ value = .int i ∧ low ≤ i ∧ i ≤ high := by
  unfold Wire.integer? Json.int
  constructor
  · intro h
    split at h
    · split at h
      · next hrange =>
        obtain rfl := Option.some.inj h
        exact ⟨rfl, hrange⟩
      · cases h
    · cases h
  · rintro ⟨rfl, hrange⟩
    exact if_pos hrange

/-- A port is read from its own wire form only. -/
theorem Wire.decode?_port {value : Json} {port : UInt16} :
    Wire.decode? value = some port ↔ value = Wire.encode port := by
  have hsize : (UInt16.size : Int) = 65536 := rfl
  have hlt := port.toNat_lt
  constructor
  · intro h
    obtain ⟨i, hi, rfl⟩ := Option.map_eq_some_iff.mp h
    obtain ⟨rfl, hlow, hhigh⟩ := Wire.integer?_eq_some_iff.mp hi
    have hnat : (UInt16.ofNat i.toNat).toNat = i.toNat := by
      rw [UInt16.toNat_ofNat']
      omega
    show Json.int i = Json.int (UInt16.ofNat i.toNat).toNat
    rw [hnat, Int.toNat_of_nonneg hlow]
  · rintro rfl
    refine Option.map_eq_some_iff.mpr ⟨port.toNat, ?_, ?_⟩
    · exact Wire.integer?_eq_some_iff.mpr ⟨rfl, by omega, by omega⟩
    · rw [Int.toNat_natCast, UInt16.ofNat_toNat]

namespace Fields

variable {schema : OptionsSchema} {fields : JsonFields} {name : String} {value : Json}
  {d : OptionDescription} {α : Type} [Wire α]

/-- A required option of a type that can be read is read. -/
theorem required_of_check (h : schema.check (.object fields) = .ok ())
    (hrequired : name ∈ schema.required) (hd : schema.properties.lookup name = some d)
    (hreads : d.type.Reads α) (index : Nat) :
    ∃ a : α, (Fields.named fields).required index name = some a := by
  obtain ⟨value, hgiven⟩ := (OptionsSchema.check_object_iff.mp h).1 name hrequired
  obtain ⟨hget, hnull⟩ := OptionsSchema.get?_of_given? hgiven
  obtain ⟨a, ha⟩ := hreads value (OptionsSchema.accepts_of_check h hd hget hnull)
  exact ⟨a, Option.bind_eq_some_iff.mpr ⟨value, hget, ha⟩⟩

theorem orDefault_of_get? (h : fields.get? name = some value) (index : Nat) (default : α) :
    (Fields.named fields).orDefault index name default = Wire.decode? value := by
  unfold orDefault
  rw [show (Fields.named fields).find? index name = some value from h]

theorem orDefault_of_absent (h : fields.get? name = none) (index : Nat) (default : α) :
    (Fields.named fields).orDefault index name default = some default := by
  unfold orDefault
  rw [show (Fields.named fields).find? index name = none from h]

/-- An option with a default is read, unless it is `null` and this cannot be read. -/
theorem orDefault_of_check (h : schema.check (.object fields) = .ok ())
    (hd : schema.properties.lookup name = some d) (hreads : d.type.Reads α)
    (hnull : fields.get? name = some .null → ∃ a : α, Wire.decode? Json.null = some a)
    (index : Nat) (default : α) :
    ∃ a : α, (Fields.named fields).orDefault index name default = some a := by
  cases hget : fields.get? name with
  | none => exact ⟨default, orDefault_of_absent hget index default⟩
  | some value =>
    rw [orDefault_of_get? hget]
    by_cases hvalue : value = .null
    · subst hvalue
      exact hnull hget
    · have hgiven : value.isNull = false := by
        cases value with
        | null => exact absurd rfl hvalue
        | _ => rfl
      exact hreads value (OptionsSchema.accepts_of_check h hd hget hgiven)

end Fields

/-! ### Settings -/

namespace WarehouseSettings

variable {options : Json} {fields : JsonFields} {settings : WarehouseSettings}

/-- Settings are those that are read, if the options pass the check. -/
theorem ofOptions_eq_ok_iff : ofOptions options = .ok settings ↔
    schema.check options = .ok () ∧ Wire.decode? options = some settings := by
  show Except.bind _ _ = _ ↔ _
  rw [mapError_bind_eq_ok]
  cases Wire.decode? (α := WarehouseSettings) options <;> simp [pure, Except.pure]

theorem read_of_check (h : schema.check (.object fields) = .ok ())
    (hport : ∃ port : UInt16, fields.get? "port" = some (Wire.encode port))
    (hencrypted : fields.get? "encrypted" ≠ some .null) :
    ∃ settings : WarehouseSettings, Wire.decode? (.object fields) = some settings := by
  have htext : ∀ name ∈ ["host", "user", "password"], ∀ index,
      ∃ text : String, (Fields.named fields).required index name = some text := by
    intro name hname index
    obtain ⟨hrequired, d, hd, htype⟩ : name ∈ schema.required ∧
        ∃ d, schema.properties.lookup name = some d ∧ d.type = .string := by
      simp only [List.mem_cons, List.not_mem_nil, or_false] at hname
      rcases hname with rfl | rfl | rfl <;> exact ⟨by decide, _, rfl, rfl⟩
    exact Fields.required_of_check h hrequired hd (htype ▸ OptionType.reads_string) index
  obtain ⟨host, hhost⟩ := htext "host" (by simp) 0
  obtain ⟨user, huser⟩ := htext "user" (by simp) 2
  obtain ⟨password, hpassword⟩ := htext "password" (by simp) 3
  obtain ⟨port, hport⟩ := hport
  have hread : (Fields.named fields).orDefault 1 "port" 8563 = some port := by
    rw [Fields.orDefault_of_get? hport]
    exact Wire.decode?_port.mpr rfl
  obtain ⟨encrypted, hencrypted⟩ : ∃ b : Bool,
      (Fields.named fields).orDefault 4 "encrypted" true = some b :=
    Fields.orDefault_of_check h rfl OptionType.reads_boolean
      (fun hnull => absurd hnull hencrypted) 4 true
  refine ⟨⟨host, port, user, password, encrypted⟩, ?_⟩
  simp only [Wire.decode?, Fields.of?, hhost, hread, huser, hpassword, hencrypted, bind,
    Option.bind, pure]

/-- The port is read as it was given, since it has to be given. -/
theorem port_of_ofOptions (h : ofOptions options = .ok settings) :
    options.get? "port" = some (Wire.encode settings.port) := by
  obtain ⟨hcheck, hread⟩ := ofOptions_eq_ok_iff.mp h
  have hrequired : "port" ∈ schema.required := by decide
  obtain ⟨fields, rfl⟩ := OptionsSchema.object_of_check hrequired hcheck
  obtain ⟨value, hgiven⟩ := (OptionsSchema.check_object_iff.mp hcheck).1 _ hrequired
  obtain ⟨hget, -⟩ := OptionsSchema.get?_of_given? hgiven
  obtain ⟨_, hfields, hread⟩ := Option.bind_eq_some_iff.mp hread
  obtain rfl := Option.some.inj hfields
  obtain ⟨host, -, hread⟩ := Option.bind_eq_some_iff.mp hread
  obtain ⟨port, hport, hread⟩ := Option.bind_eq_some_iff.mp hread
  obtain ⟨user, -, hread⟩ := Option.bind_eq_some_iff.mp hread
  obtain ⟨password, -, hread⟩ := Option.bind_eq_some_iff.mp hread
  obtain ⟨encrypted, -, hread⟩ := Option.bind_eq_some_iff.mp hread
  obtain rfl := Option.some.inj hread
  have hdecode : Wire.decode? value = some port :=
    (Fields.orDefault_of_get? hget 1 8563).symm.trans hport
  show JsonFields.get? fields "port" = some (Wire.encode port)
  rw [hget, Wire.decode?_port.mp hdecode]

end WarehouseSettings

namespace ServerSettings

variable {options : Json} {fields : JsonFields} {settings : ServerSettings}

/-- Settings are those that are read, if the options pass the check. -/
theorem ofOptions_eq_ok_iff : ofOptions options = .ok settings ↔
    schema.check options = .ok () ∧ Wire.decode? options = some settings := by
  show Except.bind _ _ = _ ↔ _
  rw [mapError_bind_eq_ok]
  cases Wire.decode? (α := ServerSettings) options <;> simp [pure, Except.pure]

theorem read_of_check (h : schema.check (.object fields) = .ok ())
    (hverifies : fields.get? "verify_ssl" ≠ some .null) :
    ∃ settings : ServerSettings, Wire.decode? (.object fields) = some settings := by
  have hfile : ∀ name ∈ ["cert_File", "cert_key_File", "ca_cert_File"], ∀ index,
      ∃ file : Option String, (Fields.named fields).orDefault index name none = some file := by
    intro name hname index
    obtain ⟨d, hd, htype⟩ : ∃ d, schema.properties.lookup name = some d ∧ d.type = .string := by
      simp only [List.mem_cons, List.not_mem_nil, or_false] at hname
      rcases hname with rfl | rfl | rfl <;> exact ⟨_, rfl, rfl⟩
    exact Fields.orDefault_of_check h hd (htype ▸ OptionType.reads_string.option)
      (fun _ => ⟨none, rfl⟩) index none
  obtain ⟨certificate, hcertificate⟩ := hfile "cert_File" (by simp) 2
  obtain ⟨key, hkey⟩ := hfile "cert_key_File" (by simp) 3
  obtain ⟨ca, hca⟩ := hfile "ca_cert_File" (by simp) 4
  obtain ⟨url, hurl⟩ : ∃ url : String, (Fields.named fields).required 0 "url" = some url :=
    Fields.required_of_check h (by decide) rfl OptionType.reads_string 0
  obtain ⟨verifies, hverifies⟩ : ∃ b : Bool,
      (Fields.named fields).orDefault 1 "verify_ssl" true = some b :=
    Fields.orDefault_of_check h rfl OptionType.reads_boolean
      (fun hnull => absurd hnull hverifies) 1 true
  refine ⟨⟨url, verifies, certificate, key, ca⟩, ?_⟩
  simp only [Wire.decode?, Fields.of?, hurl, hverifies, hcertificate, hkey, hca, bind,
    Option.bind, pure]

end ServerSettings

/-! ### The two checks of the bundled runners -/

namespace Registry

variable {options : Json}

theorem check_warehouse_iff :
    builtin.check "exasol" options = .ok () ↔ WarehouseSettings.schema.check options = .ok () :=
  mapError_eq_ok

theorem check_timeSeries_iff :
    builtin.check "prometheus" options = .ok () ↔ ServerSettings.schema.check options = .ok () :=
  mapError_eq_ok

theorem build_warehouse_iff : (∃ runner, builtin.build "exasol" options = .ok runner) ↔
    ∃ settings, WarehouseSettings.ofOptions options = .ok settings :=
  exists_mapError_map_eq_ok

theorem build_timeSeries_iff : (∃ runner, builtin.build "prometheus" options = .ok runner) ↔
    ∃ settings, ServerSettings.ofOptions options = .ok settings :=
  exists_mapError_map_eq_ok

/-- Options pass the check of a bundled runner, and its port is one, exactly when the runner can be
    built from them, with a switch that is given as `null` left aside. -/
theorem check_iff_build (options : Json) :
    (options.get? "encrypted" ≠ some .null →
      ((builtin.check "exasol" options = .ok () ∧
          ∃ port : UInt16, options.get? "port" = some (Wire.encode port)) ↔
        ∃ runner, builtin.build "exasol" options = .ok runner)) ∧
    (options.get? "verify_ssl" ≠ some .null →
      (builtin.check "prometheus" options = .ok () ↔
        ∃ runner, builtin.build "prometheus" options = .ok runner)) ∧
    ∀ type ∈ ["exasol", "prometheus"], (∃ runner, builtin.build type options = .ok runner) →
      builtin.check type options = .ok () := by
  have hwarehouse : (∃ runner, builtin.build "exasol" options = .ok runner) →
      builtin.check "exasol" options = .ok () := by
    intro hbuilt
    obtain ⟨settings, hsettings⟩ := build_warehouse_iff.mp hbuilt
    exact check_warehouse_iff.mpr (WarehouseSettings.ofOptions_eq_ok_iff.mp hsettings).1
  have htimeSeries : (∃ runner, builtin.build "prometheus" options = .ok runner) →
      builtin.check "prometheus" options = .ok () := by
    intro hbuilt
    obtain ⟨settings, hsettings⟩ := build_timeSeries_iff.mp hbuilt
    exact check_timeSeries_iff.mpr (ServerSettings.ofOptions_eq_ok_iff.mp hsettings).1
  refine ⟨?_, ?_, ?_⟩
  · intro hencrypted
    constructor
    · rintro ⟨hcheck, hport⟩
      have hcheck := check_warehouse_iff.mp hcheck
      have hrequired : "host" ∈ WarehouseSettings.schema.required := by decide
      obtain ⟨fields, rfl⟩ := OptionsSchema.object_of_check hrequired hcheck
      obtain ⟨settings, hread⟩ := WarehouseSettings.read_of_check hcheck hport hencrypted
      exact build_warehouse_iff.mpr
        ⟨settings, WarehouseSettings.ofOptions_eq_ok_iff.mpr ⟨hcheck, hread⟩⟩
    · -- the port of the settings is the one that was given
      intro hbuilt
      obtain ⟨settings, hsettings⟩ := build_warehouse_iff.mp hbuilt
      exact ⟨hwarehouse hbuilt, settings.port, WarehouseSettings.port_of_ofOptions hsettings⟩
  · intro hverifies
    refine ⟨?_, htimeSeries⟩
    intro hcheck
    have hcheck := check_timeSeries_iff.mp hcheck
    have hrequired : "url" ∈ ServerSettings.schema.required := by decide
    obtain ⟨fields, rfl⟩ := OptionsSchema.object_of_check hrequired hcheck
    obtain ⟨settings, hread⟩ := ServerSettings.read_of_check hcheck hverifies
    exact build_timeSeries_iff.mpr
      ⟨settings, ServerSettings.ofOptions_eq_ok_iff.mpr ⟨hcheck, hread⟩⟩
  · intro type htype
    simp only [List.mem_cons, List.not_mem_nil, or_false] at htype
    rcases htype with rfl | rfl
    · exact hwarehouse
    · exact htimeSeries

/-- Options with which either runner can be built; each leaves out what has a default. -/
theorem check_iff_build_required_only :
    let options := Json.record [("host", .string "db"), ("password", .string "p"),
      ("port", .int 8563), ("url", .string "http://prom"), ("user", .string "u"),
      ("cert_File", .null)]
    (∃ runner, builtin.build "exasol" options = .ok runner) ∧
      ∃ runner, builtin.build "prometheus" options = .ok runner := by
  intro options
  obtain ⟨hwarehouse, htimeSeries, -⟩ := check_iff_build options
  exact ⟨(hwarehouse (by decide)).mp ⟨eq_ok_of_toOption (by decide +kernel), 8563, by decide⟩,
    (htimeSeries (by decide)).mp (eq_ok_of_toOption (by decide +kernel))⟩

/-- The check takes any number for a port, also one that no port has. -/
theorem port_beyond_range_passes_check :
    let options := Json.record [("host", .string "db"), ("password", .string "p"),
      ("port", .int 70000), ("user", .string "u")]
    builtin.check "exasol" options = .ok () ∧
      ¬ ∃ runner, builtin.build "exasol" options = .ok runner := by
  intro options
  refine ⟨eq_ok_of_toOption (by decide +kernel), ?_⟩
  intro hbuilt
  obtain ⟨settings, hsettings⟩ := build_warehouse_iff.mp hbuilt
  have hread := (WarehouseSettings.ofOptions_eq_ok_iff.mp hsettings).2
  have hnone : Wire.decode? (α := WarehouseSettings) options = none := by decide +kernel
  rw [hnone] at hread
  cases hread

end Registry

end QueryDispatch

import QueryDispatch.Config
import QueryDispatch.Data.TableSchema
import QueryDispatch.Job.Basic
import QueryDispatch.Parameter.Definition
import QueryDispatch.Proofs.Calendar.WrittenInstants
import QueryDispatch.Proofs.Data.Identifiers
import QueryDispatch.TimeSeries.Server
import QueryDispatch.Warehouse.Connector

/-! # Records are read as they are written

  The wire form of a record is a JSON value, and every record that is kept is
  read back from it. So what was accepted once is settled: writing it as a
  value and reading that value again changes nothing. The text that the value
  is printed as is another matter, as not every number is read from its text.
-/

namespace QueryDispatch

open Wire

/-! ### Identifiers and names -/

instance : ReadsBack SourceId := ⟨fun id => by unfold instWireSourceId; simp⟩

instance : RefusesNull SourceId := ⟨rfl⟩

instance : ReadsBack QueryId := ⟨fun id => by unfold instWireQueryId; simp⟩

instance : RefusesNull QueryId := ⟨rfl⟩

instance : ReadsBack UserId := ⟨fun id => by unfold instWireUserId; simp⟩

instance : ReadsBack JobId := ⟨fun id => by unfold instWireJobId; simp⟩

instance : ReadsBack ResultId := ⟨fun id => by unfold instWireResultId; simp⟩

instance : RefusesNull ResultId := ⟨rfl⟩

instance : ReadsBack Instant := ⟨Instant.read?_text⟩

instance : ReadsBack Fingerprint := ⟨fun _ => rfl⟩

instance : ReadsBack ColumnType := ⟨fun t => by cases t <;> rfl⟩

instance : ReadsBack JobStatus := ⟨fun s => by cases s <;> rfl⟩

/-! ### Data -/

instance : ReadsBack DataSource where
  decode?_encode s := by
    unfold instWireDataSource
    simp [lookup_cons_eq_ite]

instance : ReadsBack User where
  decode?_encode u := by
    unfold instWireUser
    simp [lookup_cons_eq_ite]

instance : ReadsBack SavedQuery where
  decode?_encode q := by
    unfold instWireSavedQuery
    simp [lookup_cons_eq_ite]

instance : ReadsBack Column where
  decode?_encode c := by
    unfold instWireColumn
    simp [lookup_cons_eq_ite]

instance : ReadsBack Row := ⟨fun _ => rfl⟩

instance : ReadsBack Table where
  decode?_encode t := by
    obtain ⟨columns, rows, queryType⟩ := t
    unfold instWireTable
    cases queryType <;> simp [lookup_cons_eq_ite]

instance : ReadsBack TableSchema where
  decode?_encode t := by
    unfold instWireTableSchema
    simp [lookup_cons_eq_ite]

/-! ### Parameters -/

instance : ReadsBack MultiValue where
  decode?_encode m := by
    unfold instWireMultiValue
    simp [lookup_cons_eq_ite]

instance : RefusesNull MultiValue := ⟨rfl⟩

/-- The fields of a kind stand beside the name and the title, and the tag tells which they are. -/
instance : ReadsBack ParameterDefinition where
  decode?_encode d := by
    obtain ⟨name, title, kind⟩ := d
    unfold instWireParameterDefinition
    cases title <;> cases kind <;>
      simp [ParameterKind.tag, ParameterKind.details, ParameterKind.ofFields?,
        ParameterKind.tagOf?, lookup_cons_eq_ite]

/-! ### Jobs -/

instance : ReadsBack JobMetadata where
  decode?_encode m := by
    unfold instWireJobMetadata
    simp [lookup_cons_eq_ite]

instance : ReadsBack Job where
  decode?_encode j := by
    obtain ⟨id, fingerprint, source, text, status, error, result, metadata, created, updated⟩ := j
    unfold instWireJob
    cases error <;> cases result <;> simp [lookup_cons_eq_ite]

/-! ### Settings -/

instance : ReadsBack WarehouseSettings where
  decode?_encode s := by
    unfold instWireWarehouseSettings
    simp [lookup_cons_eq_ite]

instance : ReadsBack ServerSettings where
  decode?_encode s := by
    unfold instWireServerSettings
    simp [lookup_cons_eq_ite]

instance : ReadsBack DispatchConfig where
  decode?_encode c := by
    unfold instWireDispatchConfig
    simp [lookup_cons_eq_ite]

instance : ReadsBack PoolConfig where
  decode?_encode c := by
    unfold instWirePoolConfig
    simp [lookup_cons_eq_ite]

instance : ReadsBack Config where
  decode?_encode c := by
    unfold instWireConfig
    simp [lookup_cons_eq_ite]

/-! ### All records -/

/-- Every record that is kept comes back from its wire form, a JSON value, as it was. -/
theorem records_round_trip :
    RoundTrips ParameterDefinition ∧ RoundTrips DataSource ∧ RoundTrips User ∧
    RoundTrips SavedQuery ∧ RoundTrips Table ∧ RoundTrips Column ∧ RoundTrips JobMetadata ∧
    RoundTrips Job ∧ RoundTrips WarehouseSettings ∧ RoundTrips ServerSettings ∧
    RoundTrips TableSchema ∧ RoundTrips Config :=
  ⟨.of_readsBack, .of_readsBack, .of_readsBack, .of_readsBack, .of_readsBack, .of_readsBack,
    .of_readsBack, .of_readsBack, .of_readsBack, .of_readsBack, .of_readsBack, .of_readsBack⟩

end QueryDispatch

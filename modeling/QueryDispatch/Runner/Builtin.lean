import QueryDispatch.Runner.Registry
import QueryDispatch.Sql.RowLimit

/-! # The bundled runners

  A warehouse that is queried in SQL, and a time series server. Either can
  browse its backend and test the connection.
-/

namespace QueryDispatch

namespace Runner

/-- A runner on a warehouse. -/
def warehouse (settings : WarehouseSettings) : Runner where
  type := "exasol"
  limitRows text wanted := if wanted then Sql.limitRows text Sql.defaultRowLimit else text
  browsesSchema := true
  testsConnection := true
  run network _ query _ :=
    .of (Warehouse.run (.overLine network.client network.dial) settings query ⟨[], []⟩).1

/-- A runner on a time series server, which knows no row limits. -/
def timeSeries (settings : ServerSettings) : Runner where
  type := "prometheus"
  limitRows text _ := text
  browsesSchema := true
  testsConnection := true
  run network now query _ := .of (TimeSeries.run network.exchange settings query now)

end Runner

namespace Descriptor

/-- The entry of the warehouse runner. -/
def warehouse : Descriptor where
  type := "exasol"
  name := "Exasol"
  schema := WarehouseSettings.schema
  build options := (WarehouseSettings.ofOptions options).map Runner.warehouse

/-- The entry of the time series runner. -/
def timeSeries : Descriptor where
  type := "prometheus"
  name := "Prometheus"
  schema := ServerSettings.schema
  build options := (ServerSettings.ofOptions options).map Runner.timeSeries

end Descriptor

namespace Registry

/-- Registers the bundled runners one after the other, up to the first that is refused. -/
def registerBuiltin (r : Registry) : Except RegistryError Unit × Registry :=
  match r.register Descriptor.warehouse with
  | .error e => (.error e, r)
  | .ok r =>
    match r.register Descriptor.timeSeries with
    | .error e => (.error e, r)
    | .ok r => (.ok (), r)

/-- A registry with the bundled runners. -/
def builtin : Registry := (registerBuiltin Registry.empty).2

end Registry

end QueryDispatch

import QueryDispatch.Json.Wire

/-! # Settings

  How many jobs run at a time, how many may wait, how long finished jobs are
  kept, and how many runners are held. Every setting has a default; some may
  not be zero.
-/

namespace QueryDispatch

/-- Settings for running jobs. -/
structure DispatchConfig where
  /-- How many jobs run at a time. -/
  workers : UInt64
  /-- How many jobs may wait to be run. -/
  queueSize : UInt64
  /-- How many seconds a finished job can be asked for. -/
  keepSeconds : UInt64
  deriving DecidableEq

/-- Settings for held runners. -/
structure PoolConfig where
  /-- How many runners are held. -/
  maxRunners : UInt64
  /-- How many seconds an unused runner is held. -/
  idleSeconds : UInt64
  deriving DecidableEq

/-- All settings. -/
structure Config where
  dispatch : DispatchConfig
  pool : PoolConfig
  deriving DecidableEq

/-- Four jobs at a time. -/
def DispatchConfig.default : DispatchConfig := ⟨4, 1024, 3600⟩

/-- Up to 128 runners for ten minutes. -/
def PoolConfig.default : PoolConfig := ⟨128, 600⟩

/-- The defaults. -/
def Config.default : Config := ⟨DispatchConfig.default, PoolConfig.default⟩

/-- A setting that may not be zero. -/
inductive ConfigError where
  | noWorkers
  | noQueue
  | noKeepTime
  | noRunners
  deriving DecidableEq, Repr

/-- The wording of an error. -/
def ConfigError.message : ConfigError → String
  | .noWorkers => "dispatcher.workers must be at least 1"
  | .noQueue => "dispatcher.queue_size must be at least 1"
  | .noKeepTime => "dispatcher.job_ttl_secs must be positive"
  | .noRunners => "runners.max_runners must be at least 1"

/-- The first of these settings that is zero. -/
def DispatchConfig.check (c : DispatchConfig) : Except ConfigError Unit :=
  if c.workers = 0 then .error .noWorkers
  else if c.queueSize = 0 then .error .noQueue
  else if c.keepSeconds = 0 then .error .noKeepTime
  else .ok ()

/-- Whether a runner can be held at all. -/
def PoolConfig.check (c : PoolConfig) : Except ConfigError Unit :=
  if c.maxRunners = 0 then .error .noRunners else .ok ()

/-- The first setting that is zero. -/
def Config.check (c : Config) : Except ConfigError Unit := do
  c.dispatch.check
  c.pool.check

instance : Wire DispatchConfig where
  encode c := .object [
    ("job_ttl_secs", Wire.encode c.keepSeconds),
    ("queue_size", Wire.encode c.queueSize),
    ("workers", Wire.encode c.workers)]
  decode? j := do
    let f ← Fields.of? 3 j
    return ⟨← f.orDefault 0 "workers" DispatchConfig.default.workers,
      ← f.orDefault 1 "queue_size" DispatchConfig.default.queueSize,
      ← f.orDefault 2 "job_ttl_secs" DispatchConfig.default.keepSeconds⟩

instance : Wire PoolConfig where
  encode c := .object [
    ("idle_secs", Wire.encode c.idleSeconds),
    ("max_runners", Wire.encode c.maxRunners)]
  decode? j := do
    let f ← Fields.of? 2 j
    return ⟨← f.orDefault 0 "max_runners" PoolConfig.default.maxRunners,
      ← f.orDefault 1 "idle_secs" PoolConfig.default.idleSeconds⟩

instance : Wire Config where
  encode c := .object [
    ("dispatcher", Wire.encode c.dispatch),
    ("runners", Wire.encode c.pool)]
  decode? j := do
    let f ← Fields.of? 2 j
    return ⟨← f.orDefault 0 "dispatcher" DispatchConfig.default,
      ← f.orDefault 1 "runners" PoolConfig.default⟩

end QueryDispatch

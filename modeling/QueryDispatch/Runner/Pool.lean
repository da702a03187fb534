import QueryDispatch.Digest.Sha256
import QueryDispatch.Runner.Registry

/-! # The pool of runners

  A runner is built when a data source first needs it, and held for the same
  data source with the same options, which are told apart by a digest of their
  text. A data source whose options are edited gets another one.
-/

namespace QueryDispatch

/-- What a held runner belongs to. -/
structure RunnerKey where
  source : SourceId
  type : String
  /-- The digest of the options. -/
  digest : String
  deriving DecidableEq

namespace DataSource

/-- What is hashed of the options: their text in UTF-8. -/
def optionsBytes (s : DataSource) : List UInt8 := s.options.text.toUTF8.data.toList

/-- The digest of the options, as hexadecimal digits. -/
def optionsDigest (s : DataSource) : String :=
  String.ofList (Sha256.hexText (Sha256.digest s.optionsBytes))

/-- The key of a data source. -/
def runnerKey (s : DataSource) : RunnerKey := ⟨s.id, s.type, s.optionsDigest⟩

end DataSource

/-- A runner with the number it got when it was built. -/
structure HeldRunner where
  number : Nat
  runner : Runner

/-- Held runners, and how many were built so far. -/
structure RunnerPool where
  registry : Registry
  held : Assoc RunnerKey HeldRunner
  built : Nat

namespace RunnerPool

/-- A pool that holds no runners. -/
def of (registry : Registry) : RunnerPool := ⟨registry, [], 0⟩

/-- The runner of a data source. It is built if none is held; a failure to build changes nothing. -/
def get (p : RunnerPool) (source : DataSource) : Except RegistryError (HeldRunner × RunnerPool) :=
  match p.held.find? source.runnerKey with
  | some held => .ok (held, p)
  | none =>
    match p.registry.build source.type source.options with
    | .error e => .error e
    | .ok runner =>
      let held := ⟨p.built + 1, runner⟩
      .ok (held, { p with held := p.held.put source.runnerKey held, built := p.built + 1 })

/-- The pool after a runner for a data source was asked for. -/
def after (p : RunnerPool) (source : DataSource) : RunnerPool :=
  match p.get source with
  | .ok (_, p) => p
  | .error _ => p

/-- Lets go of all runners of a data source. -/
def invalidate (p : RunnerPool) (source : SourceId) : RunnerPool :=
  { p with held := p.held.filter fun (key, _) => key.source ≠ source }

end RunnerPool

end QueryDispatch

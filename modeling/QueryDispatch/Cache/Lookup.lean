import QueryDispatch.Cache.MaxAge
import QueryDispatch.Store.Basic

/-! # Cache look-ups

  A request is answered from the store if the result retrieved last for its
  source and text is young enough.
-/

namespace QueryDispatch

/-- The result that answers a request, if there is one. -/
def Store.fresh (s : Store) (source : SourceId) (text : String) (age : MaxAge) (now : Instant) :
    Except StoreError (Option StoredResult) :=
  match age with
  | .never => .ok none
  | age => do
    match ← s.latest (Fingerprint.of source.value text) with
    | some result => return if age.accepts result.retrievedAt now then some result else none
    | none => return none

end QueryDispatch

import GaugeMesh.Digest
import GaugeMesh.Interleaving.Schedule
import GaugeMesh.Task.Record

/-! `outbound.rs`: the connections to the upstream sources, how one is replaced after a
failure and how all are closed. What a connection answers is left open. -/
namespace GaugeMesh
open Interleaving

/-- A running client connection, by an opaque handle. -/
structure ActiveClient where
  handle : Nat
  deriving DecidableEq

inductive UpstreamError where
  | shuttingDown
  | sourceUnavailable
  | restartBudgetExhausted
  | connect
  | restartDiscoveryTimeout
  | discovery
  | identityChanged
  | cleanup
  | cleanupTimeout
  deriving DecidableEq

/-- The steps of the two operations that other callers can observe or wait for. -/
inductive UpstreamOp where
  | storeShuttingDown
  | loadShuttingDown
  | lockRestart (source : String)
  | unlockRestart (source : String)
  | readGeneration (source : String)
  | countRestart (source : String)
  | connectSource (source : String)
  | snapshot (service : ActiveClient)
  | cancel (service : ActiveClient)
  | replaceService (source : String) (service : ActiveClient)
  | writePeer (source : String) (generation : Nat)
  | takeService (source : String)
  | closeWithTimeout (service : ActiveClient)
  deriving DecidableEq

namespace UpstreamOp

/-- A snapshot is answered by its digest, a close by whether it ended in time. -/
@[reducible] def Ret : UpstreamOp → Type
  | loadShuttingDown => Bool
  | readGeneration _ => Nat
  | countRestart _ => Bool
  | connectSource _ => Except UpstreamError ActiveClient
  | snapshot _ => Except UpstreamError Sha256Digest
  | replaceService .. => Option ActiveClient
  | takeService _ => Option ActiveClient
  | closeWithTimeout _ => Except UpstreamError Bool
  | _ => Unit

end UpstreamOp

abbrev Upstream := Fallible UpstreamOp UpstreamOp.Ret UpstreamError

def ask (op : UpstreamOp) : Upstream op.Ret := Fallible.perform op

/-- The fixed part of the runtime: each source with the digest of its snapshot. -/
structure UpstreamRuntime where
  sources : List (String × Sha256Digest)

structure ManagedSource where
  restartLock : Option Nat
  service : Option ActiveClient
  generation : Nat
  restarts : Nat

structure UpstreamState where
  shuttingDown : Bool
  source : String → ManagedSource

def UpstreamState.set (s : UpstreamState) (source : String) (managed : ManagedSource) :
    UpstreamState :=
  { s with source := Function.update s.source source managed }

/-- `let _restart = source.restart_lock.lock().await;` the guard is dropped on every way out. -/
def withRestartLock (source : String) (body : Upstream Unit) : Upstream Unit := do
  ask (.lockRestart source)
  let result ← ExceptT.lift body.run
  ask (.unlockRestart source)
  Fallible.ofExcept result

namespace UpstreamRuntime

def expectedSnapshot (runtime : UpstreamRuntime) (source : String) : Option Sha256Digest :=
  (runtime.sources.find? (·.1 == source)).map (·.2)

def reconnect (source : String) (observed : Nat) (expected : Sha256Digest) : Upstream Unit := do
  let generation ← ask (.readGeneration source)
  if generation ≠ observed then return ()
  unless ← ask (.countRestart source) do throw .restartBudgetExhausted
  let service ← Fallible.ofExcept (← ask (.connectSource source))
  let digest ← Fallible.ofExcept (← ask (.snapshot service))
  if digest ≠ expected then
    ask (.cancel service)
    throw .identityChanged
  let old ← ask (.replaceService source service)
  ask (.writePeer source (saturatingAdd observed 1))
  match old with
  | some old =>
    let _ ← ask (.closeWithTimeout old)
    return ()
  | none => return ()

def restartAfterFailure (runtime : UpstreamRuntime) (source : String) (observed : Nat) :
    Upstream Unit := do
  if ← ask .loadShuttingDown then throw .shuttingDown
  match runtime.expectedSnapshot source with
  | none => throw .sourceUnavailable
  | some expected => withRestartLock source (reconnect source observed expected)

def closeSource (source : String) : Upstream Unit := do
  match ← ask (.takeService source) with
  | none => return ()
  | some service =>
    let closed ← Fallible.ofExcept (← ask (.closeWithTimeout service))
    unless closed do throw .cleanupTimeout

/-- The loop over the sources of the runtime. -/
def closeSources : List String → Upstream Unit
  | [] => return ()
  | source :: rest => do
    withRestartLock source (closeSource source)
    closeSources rest

def shutdown (runtime : UpstreamRuntime) : Upstream Unit := do
  ask .storeShuttingDown
  closeSources (runtime.sources.map (·.1))

end UpstreamRuntime

inductive UpstreamRequest where
  | restartAfterFailure (source : String) (observed : Nat)
  | shutdown

namespace UpstreamState

/-- When thread `i` gets which reply; connections answer as they like. -/
def answers (s : UpstreamState) (i : Nat) : (op : UpstreamOp) → op.Ret → Prop
  | .loadShuttingDown, reply => reply = s.shuttingDown
  | .lockRestart source, _ => (s.source source).restartLock = none
  | .unlockRestart source, _ => (s.source source).restartLock = some i
  | .readGeneration source, reply => reply = (s.source source).generation
  | .countRestart source, reply => reply = decide ((s.source source).restarts < 2)
  | .replaceService source _, reply => reply = (s.source source).service
  | .takeService source, reply => reply = (s.source source).service
  | .storeShuttingDown, _ | .connectSource _, _ | .snapshot _, _ | .cancel _, _ | .writePeer _ _, _
  | .closeWithTimeout _, _ => True

def next (i : Nat) (s : UpstreamState) : UpstreamOp → UpstreamState
  | .storeShuttingDown => { s with shuttingDown := true }
  | .lockRestart source => s.set source { s.source source with restartLock := some i }
  | .unlockRestart source => s.set source { s.source source with restartLock := none }
  | .countRestart source =>
    if (s.source source).restarts < 2 then
      s.set source { s.source source with restarts := (s.source source).restarts + 1 }
    else s
  | .replaceService source service =>
    s.set source { s.source source with service := some service }
  | .writePeer source generation => s.set source { s.source source with generation := generation }
  | .takeService source => s.set source { s.source source with service := none }
  | .loadShuttingDown | .readGeneration _ | .connectSource _ | .snapshot _ | .cancel _
  | .closeWithTimeout _ => s

end UpstreamState

/-- Any number of restarts and shutdowns over one runtime, every lock free at first. -/
def UpstreamRuntime.system (runtime : UpstreamRuntime) :
    System UpstreamState UpstreamOp UpstreamOp.Ret UpstreamRequest (Except UpstreamError Unit) where
  initial s := s.shuttingDown = false ∧ ∀ source, (s.source source).restartLock = none
  act i op s reply s' := s.answers i op reply ∧ s' = s.next i op
  drift _ _ := False
  body
    | .restartAfterFailure source observed => (runtime.restartAfterFailure source observed).run
    | .shutdown => runtime.shutdown.run

end GaugeMesh

/-
# Faults of the station

What the boot loader, a connect and a flash can fail with, all faults of the
station under one roof, and the table that tells which phase a fault leaves
behind. A fault that never owned the station, such as a refusal because it is
busy, has no kind and leaves everything as it is.

Key definitions: `ProtocolFault`, `ConnectFault`, `FlashFault`, `Failure`,
`FailureKind`, `FailureKind.reversion`.
-/
import FlashStation.Serial.Fault
import FlashStation.Image.Fault
import FlashStation.Station.State

namespace FlashStation

/-- What can go wrong when talking to the boot loader. -/
inductive ProtocolFault where
  /-- The loader cannot do this. -/
  | unsupported (what : String)
  /-- The board did not answer in time. -/
  | timeout (message : String)
  /-- The board did not shake hands. -/
  | handshake (message : String)
  /-- The board answered with an error or with nonsense. -/
  | protocol (message : String)
  /-- The port below failed. -/
  | port (fault : PortFault)
  deriving DecidableEq, Repr, Inhabited

/-- The text of a loader's fault. -/
def ProtocolFault.message : ProtocolFault → String
  | .unsupported what => s!"{what} is not supported by this loader"
  | .timeout m => s!"Timeout: {m}"
  | .handshake m => s!"Handshake failed: {m}"
  | .protocol m => s!"Protocol error: {m}"
  | .port f => s!"Transport error: {f.message}"

/-- The causes of a loader's fault. -/
def ProtocolFault.causes : ProtocolFault → List String
  | .port f => f.message :: f.causes
  | _ => []

/-- Why a connect failed. -/
inductive ConnectFault where
  /-- There are no serial ports on this platform. -/
  | unsupported
  /-- Another connect or a flash is under way. -/
  | busy (phase : Phase)
  /-- No port was chosen. -/
  | selectionCancelled
  /-- A port could not be selected for another reason. -/
  | selection (fault : SelectFault)
  /-- The board did not shake hands. -/
  | handshake (fault : ProtocolFault)
  /-- A disconnect or a newer connect took over. -/
  | superseded
  deriving DecidableEq, Repr, Inhabited

/-- The text of a connect's fault. -/
def ConnectFault.message : ConnectFault → String
  | .unsupported => "This platform does not provide a serial transport."
  | .busy p => s!"Cannot connect while {p.text}"
  | .selectionCancelled => "Serial port selection was cancelled."
  | .selection f => s!"Port selection failed: {f.message}"
  | .handshake f => f.message
  | .superseded => "Connection attempt was abandoned"

/-- The causes of a connect's fault. -/
def ConnectFault.causes : ConnectFault → List String
  | .selection f => f.message :: f.causes
  | .handshake f => f.message :: f.causes
  | _ => []

/-- Why a flash failed. -/
inductive FlashFault where
  /-- There is no session that is free. -/
  | notConnected (phase : Phase)
  /-- The images could not be had. -/
  | fetch (fault : FetchFault)
  /-- Writing failed. -/
  | write (fault : ProtocolFault)
  /-- The session was torn down meanwhile. -/
  | superseded
  deriving DecidableEq, Repr, Inhabited

/-- The text of a flash's fault. -/
def FlashFault.message : FlashFault → String
  | .notConnected p =>
    s!"Device is not connected (state: {p.text}). Connect to the board before flashing."
  | .fetch f => f.message
  | .write f => f.message
  | .superseded => "Flash was abandoned after the session was torn down"

/-- The causes of a flash's fault; a fault of fetching stands for itself. -/
def FlashFault.causes : FlashFault → List String
  | .fetch f => f.causes
  | .write f => f.message :: f.causes
  | _ => []

/-- Kinds of faults, across all that can fail. -/
inductive FailureKind where
  /-- The operator closed the chooser. -/
  | selectionCancelled
  /-- A lock was not given up. -/
  | lockRelease
  /-- The handshake failed, or something before it. -/
  | handshake
  /-- The board did not tell about itself. -/
  | diagnosticQuery
  /-- A choice cannot be written. -/
  | choice
  /-- A manifest or an image could not be had. -/
  | fetch
  /-- Writing failed. -/
  | write
  /-- The board did not restart. -/
  | reset
  deriving DecidableEq, Repr, Inhabited

/-- What becomes of the station after a fault. -/
inductive Reversion where
  /-- It is idle, and the session is gone. -/
  | idle
  /-- The session stays and can be used again. -/
  | connected
  /-- Nothing changes. -/
  | unchanged
  deriving DecidableEq, Repr, Inhabited

namespace FailureKind

/-- What becomes of the station after a fault of this kind. -/
def reversion : FailureKind → Reversion
  | .selectionCancelled | .handshake => .idle
  | .fetch | .write => .connected
  | .lockRelease | .diagnosticQuery | .choice | .reset => .unchanged

/-- Whether a fault of this kind ends what it happened in. -/
def isFatal : FailureKind → Bool
  | .lockRelease | .diagnosticQuery | .reset => false
  | _ => true

end FailureKind

/-- The kind of a connect's fault. -/
def ConnectFault.kind : ConnectFault → Option FailureKind
  | .selectionCancelled => some .selectionCancelled
  | .selection _ | .handshake _ => some .handshake
  | .unsupported | .busy _ | .superseded => none

/-- The kind of a flash's fault. -/
def FlashFault.kind : FlashFault → Option FailureKind
  | .fetch _ => some .fetch
  | .write _ => some .write
  | .notConnected _ | .superseded => none

/-- Any fault of the station. -/
inductive Failure where
  /-- Of a port. -/
  | port (fault : PortFault)
  /-- Of selecting a port. -/
  | select (fault : SelectFault)
  /-- Of the boot loader. -/
  | protocol (fault : ProtocolFault)
  /-- Of reclaiming a port. -/
  | reclaim (fault : ReclaimFault)
  /-- Of a connect. -/
  | connect (fault : ConnectFault)
  /-- Of a choice. -/
  | choice (fault : ChoiceFault)
  /-- Of fetching. -/
  | fetch (fault : FetchFault)
  /-- Of a flash. -/
  | flash (fault : FlashFault)
  deriving DecidableEq, Repr, Inhabited

namespace Failure

/-- The text of a fault. -/
def message : Failure → String
  | .port f => f.message
  | .select f => f.message
  | .protocol f => f.message
  | .reclaim f => f.message
  | .connect f => f.message
  | .choice f => f.message
  | .fetch f => f.message
  | .flash f => f.message

/-- The causes of a fault, the nearest first. -/
def causes : Failure → List String
  | .port f => f.causes
  | .select f => f.causes
  | .protocol f => f.causes
  | .reclaim f => f.causes
  | .connect f => f.causes
  | .choice f => f.causes
  | .fetch f => f.causes
  | .flash f => f.causes

/-- The kind of a fault, if it has one. -/
def kind : Failure → Option FailureKind
  | .connect f => f.kind
  | .flash f => f.kind
  | .select .cancelled => some .selectionCancelled
  | .reclaim (.lockRelease _ _) => some .lockRelease
  | .choice _ => some .choice
  | .fetch _ => some .fetch
  | .port _ | .select _ | .protocol _ | .reclaim (.close _) => none

end Failure

end FlashStation

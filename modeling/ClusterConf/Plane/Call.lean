import ClusterConf.Error
import ClusterConf.Log
import ClusterConf.Program
set_option autoImplicit false

/-!
The control plane of a live cluster, as the interface of the programs that read and change it.
-/
namespace ClusterConf

/-- One call to a control plane, or a note for the log. -/
inductive PlaneCall where
  | create (entity : Entity)
  /-- Replaces the entity with a key. -/
  | update (key : String) (entity : Entity)
  | delete (kind : Kind) (key : String)
  | list (kind : Kind)
  | read (kind : Kind) (key : String)
  | showGlobal
  | modifyGlobal (config : GlobalConfig)
  /-- The name of the sort of control plane. -/
  | backend
  | note (event : Event)

namespace PlaneCall

/-- What a call is answered with. Every call succeeds as a whole or fails. -/
abbrev Answer : PlaneCall → Type
  | create _ => Except PlaneError Unit
  | update _ _ => Except PlaneError Unit
  | delete _ _ => Except PlaneError Unit
  | list _ => Except PlaneError (List String)
  | read kind _ => Except PlaneError kind.Record
  | showGlobal => Except PlaneError (Option GlobalConfig)
  | modifyGlobal _ => Except PlaneError Unit
  | backend => String
  | note _ => Unit

def isMutation : PlaneCall → Bool
  | create _ | update _ _ | delete _ _ | modifyGlobal _ => true
  | _ => false

/-- Whether a call goes to the cluster at all. -/
def isRoundTrip : PlaneCall → Bool
  | backend | note _ => false
  | _ => true

/-- The answer that a call failed; what does not go to the cluster cannot fail. -/
def refusal? : (c : PlaneCall) → PlaneError → Option c.Answer
  | create _, e => some (Except.error e)
  | update _ _, e => some (Except.error e)
  | delete _ _, e => some (Except.error e)
  | list _, e => some (Except.error e)
  | read _ _, e => some (Except.error e)
  | showGlobal, e => some (Except.error e)
  | modifyGlobal _, e => some (Except.error e)
  | backend, _ => none
  | note _, _ => none

end PlaneCall

abbrev Plane : Interface := ⟨PlaneCall, PlaneCall.Answer⟩

/-- Programs that talk to a control plane. -/
abbrev Control := Program Plane

namespace Control

def call (c : PlaneCall) : Control c.Answer := .ask c .done

def note (event : Event) : Control Unit := call (.note event)

def notes (events : List Event) : Control Unit := events.forM note

end Control
end ClusterConf

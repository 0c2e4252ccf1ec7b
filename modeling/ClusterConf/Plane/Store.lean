import ClusterConf.Plane.Call
set_option autoImplicit false

/-!
The rules of a control plane that keeps its cluster in a snapshot: what exists cannot be created,
what does not exist cannot be updated, deleted or read, and an update cannot rename.
-/
namespace ClusterConf.Store

/-- Adds an entity whose key is new to its kind. -/
def create (e : Entity) (s : Snapshot) : Except PlaneError Snapshot :=
  match s.get? e.kind e.key with
  | some _ => .error (.alreadyExists e.kind e.key)
  | none => .ok (s.push e)

/-- Replaces the entity of a kind and key by one with the same key. -/
def update (key : String) (e : Entity) (s : Snapshot) : Except PlaneError Snapshot :=
  if e.key ≠ key then
    .error (.rejected s!"cannot rename {e.kind.label} '{key}' to '{e.key}'")
  else
    match s.replace? e with
    | some next => .ok next
    | none => .error (.notFound e.kind e.key)

/-- Takes out the entity of a kind and key. -/
def delete (kind : Kind) (key : String) (s : Snapshot) : Except PlaneError Snapshot :=
  match s.remove? kind key with
  | some (_, next) => .ok next
  | none => .error (.notFound kind key)

def read (kind : Kind) (key : String) (s : Snapshot) : Except PlaneError kind.Record :=
  match (s.records kind).find? fun r => kind.key r == key with
  | some r => .ok r
  | none => .error (.notFound kind key)

/-- Answers calls from a snapshot that lives in some monad: `get` tells it and `put` commits the
next one, unless that fails. -/
def serve {m : Type → Type} [Monad m] (backend : String) (get : m Snapshot)
    (put : Snapshot → m (Except PlaneError Unit)) (log : Event → m Unit) :
    (c : PlaneCall) → m c.Answer
  | .create e => do commit (create e (← get))
  | .update key e => do commit (update key e (← get))
  | .delete kind key => do commit (delete kind key (← get))
  | .modifyGlobal config => do put { ← get with globalConfig := some config }
  | .list kind => return .ok ((← get).keys kind)
  | .read kind key => return read kind key (← get)
  | .showGlobal => return .ok (← get).globalConfig
  | .backend => return backend
  | .note event => log event
where
  commit : Except PlaneError Snapshot → m (Except PlaneError Unit)
    | .error e => return .error e
    | .ok next => put next

def inMemory : (c : PlaneCall) → StateM Snapshot c.Answer :=
  serve "memory" get (fun next => do set next; return .ok ()) (fun _ => return ())

end ClusterConf.Store

import ClusterConf.Codec
import ClusterConf.Error
import ClusterConf.Json.Reader
import ClusterConf.Json.Writer
import ClusterConf.Machine.Call
import ClusterConf.Machine.Path
set_option autoImplicit false

/-!
The lock file that lets only one process at a time change a state file. A lock expires by itself,
so a process that has died does not block the cluster for ever.
-/
namespace ClusterConf

/-- What a lock file holds. -/
structure LockInfo where
  lockId : String := ""
  holder : String := ""
  host : String := ""
  pid : UInt32 := 0
  acquiredAt : Timestamp := ⟨0, 0⟩
  expiresAt : Timestamp := ⟨0, 0⟩
  deriving DecidableEq

namespace LockInfo

def timestamp : Codec Timestamp where
  read src v := do Timestamp.ofText? (← src.readText v)
  write t := .text t.zuluText
  isUnset _ := false

/-- The fields of a lock file, all of which have to be there. -/
def layout : Layout LockInfo where
  fields := [
    .text "lock_id" (·.lockId) fun r v => { r with lockId := v },
    .text "holder" (·.holder) fun r v => { r with holder := v },
    .text "host" (·.host) fun r v => { r with host := v },
    .of .word32 "pid" (·.pid) fun r v => { r with pid := v },
    .of timestamp "acquired_at" (·.acquiredAt) fun r v => { r with acquiredAt := v },
    .of timestamp "expires_at" (·.expiresAt) fun r v => { r with expiresAt := v }]
  blank := {}
  strict := true

def ofText? (text : String) : Option LockInfo :=
  (Json.read? text).bind ((Codec.record layout).read? Document.source 0)

def toText (info : LockInfo) : String := Json.pretty (layout.write info)

/-- A lock is good up to its last moment. -/
def isExpired (info : LockInfo) (now : Timestamp) : Bool := info.expiresAt.before now

/-- Whole seconds until the lock expires. -/
def remaining (info : LockInfo) (now : Timestamp) : Nat :=
  let whole := info.expiresAt.seconds - now.seconds
  (if info.expiresAt.nanos < now.nanos then whole - 1 else whole).toNat

end LockInfo

namespace Lock

open Session Attempt

/-- How long a lock is held at most, in seconds. -/
def expirySeconds : Nat := 300

def fail {α : Type} (e : StateError) : Attempt α := throw (.state e)

/-- The lock in a lock file, if the file is there. -/
def read (path : String) : Attempt (Option LockInfo) := do
  if ← ask (.pathExists path) then
    match ← (readText? path : Session _) with
    | none => fail (.corrupted .unreadableLock)
    | some text =>
      match LockInfo.ofText? text with
      | none => fail (.corrupted .malformedLock)
      | some info => return some info
  else return none

def holderName : Session String := do
  let host ← call .hostName
  let pid ← call .processId
  let id ← call .freshId
  return s!"{host}-{pid}-{id.take 8}"

def newInfo (holder : String) : Session LockInfo := do
  let now ← call .now
  return {
    lockId := ← call .freshId
    holder
    host := ← call .hostName
    pid := ← call .processId
    acquiredAt := now
    expiresAt := now.plusSeconds expirySeconds }

def step (s : LockStep) (c : Session Bool) : Attempt Unit := do
  unless ← c do fail (.lockFailed s)

def write (path : String) (info : LockInfo) : Attempt Unit := do
  if let some parent := Path.properParent? path then
    unless ← ask (.createDirectories parent) do throw .io
  step .create (call (.createFile path))
  step .write (call (.appendFile path info.toText))
  step .sync (call (.syncFile path))

/-- Acquires the lock, taking over an expired one. An empty holder stands for this process. -/
def acquire (path holder : String) : Attempt LockInfo := do
  if let some existing ← read path then
    if existing.isExpired (← ask .now) then
      log (.warn .lock s!"Expired lock held by {existing.holder} found, taking over")
    else fail (.lockedByOther existing.holder existing.acquiredAt.text)
  let holder ← if holder.isEmpty then (holderName : Session _) else pure holder
  let info ← (newInfo holder : Session _)
  write path info
  log (.info .lock s!"Acquired state lock: {info.lockId} (expires in {expirySeconds}s)")
  return info

/-- Releases the lock if it is still held under an id. -/
def release (path lockId : String) : Attempt Unit := do
  if let some existing ← read path then
    if existing.lockId = lockId then
      step .delete (call (.removeFile path))
      log (.info .lock s!"Released state lock: {lockId}")
    else log (.debug .lock s!"Lock ID mismatch: expected {lockId}, found {existing.lockId}")

/-- Whether a lock that has not expired is held. -/
def isLocked (path : String) : Attempt Bool := do
  match ← read path with
  | none => return false
  | some info => return !info.isExpired (← ask .now)

end Lock
end ClusterConf

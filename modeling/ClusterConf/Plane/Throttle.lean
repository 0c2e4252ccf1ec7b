import ClusterConf.Plane.Call
set_option autoImplicit false

/-!
Throttling: a pause after every call that goes to the cluster.
-/
namespace ClusterConf.Throttle

/-- Answers as `inner` does, pausing after round trips. -/
def serve {m : Type → Type} [Monad m] (pause : m Unit) (inner : (c : PlaneCall) → m c.Answer)
    (c : PlaneCall) : m c.Answer := do
  let answer ← inner c
  if c.isRoundTrip then pause
  return answer

/-- A pause as a text: whole and decimal seconds, or milliseconds below one second. -/
def durationText (milliseconds : Nat) : String :=
  if milliseconds < 1000 then s!"{milliseconds}ms"
  else
    let padded := "".pushn '0' (3 - (toString (milliseconds % 1000)).length) ++
      toString (milliseconds % 1000)
    let fraction := padded.toList.reverse.dropWhile (· == '0')
    let point := if fraction.isEmpty then "" else "."
    s!"{milliseconds / 1000}{point}{String.ofList fraction.reverse}s"

end ClusterConf.Throttle

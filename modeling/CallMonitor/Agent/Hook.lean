/-!
Hooks: what a host adds to the interception of its calls. A hook has a state of its own; it sees
every call before and after it is made and may replace the call's result.
-/

namespace CallMonitor

/-- A hook over a state `τ` for calls whose results have the type `ρ`. -/
structure Hook (τ ρ : Type) where
  onInit : τ → String → τ
  /-- A call with this payload is about to be made. -/
  beforeCall : τ → String → τ
  /-- A call with this payload has returned; the result to go on with. -/
  afterCall : τ → String → ρ → ρ × τ
  onFinalize : τ → τ

def Hook.idle {τ ρ : Type} : Hook τ ρ where
  onInit state _ := state
  beforeCall state _ := state
  afterCall state _ result := (result, state)
  onFinalize state := state

end CallMonitor

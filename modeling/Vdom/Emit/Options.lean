/-!
# Options — how the frame of the code is written
-/

namespace Vdom.Emit

/-- The settings of code generation. -/
structure Options where
  /-- The code returns the render function, so that a host can evaluate it as an expression. -/
  isBrowser : Bool
  /-- The global that holds the helpers. -/
  runtimeGlobalName : String
  /-- Whether places of the code are mapped to places of the template. -/
  sourceMap : Bool
  deriving DecidableEq, Repr

/-- A plain function, helpers from `ChibiVue`, and no mappings. -/
def Options.standard : Options :=
  { isBrowser := false, runtimeGlobalName := "ChibiVue", sourceMap := false }

instance : Inhabited Options := ⟨.standard⟩

end Vdom.Emit

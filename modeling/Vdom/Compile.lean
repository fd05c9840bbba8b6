import Vdom.Config
import Vdom.Emit.RenderFunction
/-!
# Compilation — a template under a project's settings
-/

namespace Vdom

/-- The code of a template with the options of a configuration. -/
def compile (registry : Registry) (root : Root) (config : Config) :
    Except Emit.Fault Emit.Generated :=
  Emit.generate registry config.compiler root

end Vdom

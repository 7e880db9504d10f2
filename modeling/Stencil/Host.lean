import Stencil.Json
import Stencil.Terminal
import Stencil.Toml

/-!
# The host

What the program relies on and has no part in: the reader of settings files, the limits of
the reader of data, and the terminal that it prints for. Nothing else is said of them than
what their types say, so what is proved of the program holds on every host.

## Main definitions

* `Host`: A host.
* `Host.standard`: One that reads and shows as the modules for settings, data and markup do.
-/

namespace Stencil

/-- What the program is run on. -/
structure Host where
  /-- How a settings file is read. -/
  toml : Toml.Reader
  /-- What is too much in a data file. -/
  json : Json.Limits
  /-- What the terminal shows of a text that may have tags, or what is wrong with them. -/
  markup : String → Except String String

/-- The host that the modules for settings, data and markup make. -/
def Host.standard : Host := ⟨Toml.standard, ⟨some 4300, some 950⟩, Terminal.shown⟩

end Stencil

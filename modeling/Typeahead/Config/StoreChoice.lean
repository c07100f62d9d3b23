import Typeahead.Config.Settings
import Typeahead.Store.ServerAddress

/-!
# The store that settings choose

The settings name the kind of the store.  A store on a server needs the address
of the server, which is read only then; how long to wait for it can be part of
the address and is otherwise a setting.
-/

namespace Typeahead.Config

open Typeahead.Decimal Typeahead.Store

set_option autoImplicit false

/-- A store before it is used. -/
inductive StoreChoice where
  | memory
  | server (address : ServerAddress) (timeout connectTimeout : Binary64)
  deriving DecidableEq, Repr, Inhabited

/-- The store that settings choose. -/
def Settings.storeChoice (settings : Settings) : Except ServerAddressFault StoreChoice :=
  match settings.storeBackend with
  | .memory => .ok .memory
  | .redis =>
      (ServerAddress.ofText settings.storeAddress).map fun address =>
        .server address (address.timeout.getD settings.storeTimeout)
          (address.connectTimeout.getD settings.storeTimeout)

end Typeahead.Config

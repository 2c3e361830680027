import Cloister.Access.Rules

/-! # The home directory

* `Access.homeBase`: how the home directory itself is shown.
* `Access.homeDirectory`: the home directory and the paths beneath it that may be written.
-/

namespace Cloister.Access
set_option autoImplicit false

def downloads : String := "Downloads"

/-- The home directory itself. Where changes are thrown away it is an empty one, unless its
protection is asked for by name; otherwise it is protected or shared. -/
def homeBase (a : Access) : Step :=
  let home := a.settings.home
  if a.context.ephemeral then
    if a.tokens.stated Capability.protectHome.name = .enabled then .read home
    else .emit (.clear (some home))
  else if a.tokens.restricts .protectHome then .read home
  else .grant (.bindWritable home)

/-- The home directory, the downloads if they are granted, and the paths of the settings. -/
def homeDirectory (a : Access) : List Step :=
  only (a.settings.home != "") <|
    a.homeBase ::
      only (a.tokens.allows .allowDownloads) [a.write (Path.join a.settings.home downloads)] ++
      a.settings.homeAccess.map fun name => entry a.settings.home name a.write

end Cloister.Access

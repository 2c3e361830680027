import Cloister.Access.Rules

/-! # Devices

* `Access.devices`: the device directory, and the devices that are shown in it.
* `Access.deviceGrants`: each device is shown once, under its place beneath the directory.
-/

namespace Cloister.Access
set_option autoImplicit false

def deviceDir : String := "/dev"

def sharedMemory : String := "/dev/shm"

/-- The names of the devices to show: those of the grants, then those of the settings. -/
def deviceNames (a : Access) : List String :=
  (if a.tokens.allows .allowGpu then ["dri"] else []) ++
    (if a.tokens.allows .allowUsb then ["usb"] else []) ++
    (if a.tokens.allows .allowShm then ["shm"] else []) ++
    a.settings.deviceAccess

/-- The grants of the named devices; a place that was met before is passed over. -/
def deviceGrants (met : List String) : List String → List Step
  | [] => []
  | name :: names =>
    match Path.beneath deviceDir name with
    | none => .refuse deviceDir name :: deviceGrants met names
    | some path =>
      if path ∈ met then deviceGrants met names
      else .grant (.bindDevice path false) :: deviceGrants (path :: met) names

/-- The device directory: a minimal one or that of the host. Shared memory is cleared unless it is
granted. -/
def devices (a : Access) : List Step :=
  (if a.tokens.restricts .hideDevices then .emit (.minimalDev deviceDir)
    else .emit (.bindDevice deviceDir true)) ::
    only (!a.tokens.allows .allowShm) [.clear sharedMemory] ++
    deviceGrants [] a.deviceNames

end Cloister.Access

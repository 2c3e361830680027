import Cloister.Access.Rules

/-! # Sockets of the session

* `Access.runtimeSockets`: the runtime directory and the sockets beneath it.
* `Access.displays`: the display protocols.
* `Access.messageBus`: the system bus and the session bus.
-/

namespace Cloister.Access
set_option autoImplicit false

def x11SocketDir : String := "/tmp/.X11-unix"

def waylandSocket : String := "wayland-0"

def systemBus : String := "/run/dbus/system_bus_socket"

def sessionBus : String := "bus"

/-- Sockets beneath the runtime directory, each with the grant that shows it. -/
def grantedSockets : List (Capability × String) :=
  [(.allowPipewire, "pipewire-0"), (.allowPulseaudio, "pulse")]

def runtimePath (a : Access) (name : String) : String := Path.join a.settings.runtimeDir name

def hasRuntimeDir (a : Access) : Bool := a.settings.runtimeDir != ""

/-- The runtime directory, the sockets that are granted, and those of the settings. -/
def runtimeSockets (a : Access) : List Step :=
  only a.hasRuntimeDir <|
    a.hideOrRead .hideSockets a.settings.runtimeDir ::
      grantedSockets.flatMap
        (fun (c, name) => only (a.tokens.allows c) [.read (a.runtimePath name)]) ++
      only (a.tokens.allows .allowDconf) [a.write (a.runtimePath "dconf")] ++
      a.settings.socketAccess.map fun name => entry a.settings.runtimeDir name Step.read

/-- The X server: its key and its sockets are shown, or both are out of reach. -/
def x11 (a : Access) : List Step :=
  let key := a.settings.xauthority
  if a.context.display.system.allowsX11 then
    only (key != "") [.read key] ++ [.read x11SocketDir]
  else
    [.emit (.unsetVariable "DISPLAY"), .emit (.unsetVariable "XAUTHORITY")] ++
      only (key != "") [.emit (.maskFile key)] ++ [.clear x11SocketDir]

/-- The Wayland compositor: its socket is shown, or it is out of reach. -/
def wayland (a : Access) : List Step :=
  if a.context.display.system.allowsWayland then
    only a.hasRuntimeDir [.read (a.runtimePath waylandSocket)]
  else
    .emit (.unsetVariable "WAYLAND_DISPLAY") ::
      only a.hasRuntimeDir [.emit (.maskFile (a.runtimePath waylandSocket))]

def displays (a : Access) : List Step := a.x11 ++ a.wayland

/-- The message buses, if they are granted. -/
def messageBus (a : Access) : List Step :=
  only (a.tokens.allows .allowDbus) <|
    .read systemBus :: only a.hasRuntimeDir [.read (a.runtimePath sessionBus)]

end Cloister.Access

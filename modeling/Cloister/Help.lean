import Cloister.Screen

/-! # The help text

* `Help.usage`: the forms of the command line.
* `Help.table`: the variables that shape a sandbox.
* `Help.printouts`: all that is printed.
-/

namespace Cloister.Help
set_option autoImplicit false

def usage : String :=
  "[bold]Usage:[/bold] sandbox-util (--command|-c NAME | --file|-f PATH) [ARGS...]"

def table : Table where
  title := "Environment"
  headStyle := "bold"
  heads := ["Variable", "Meaning"]
  rows :=
    [["SB_APPLICATION_SANDBOX_PARAMS", "Application default capabilities"],
      ["SB_USER_SANDBOX_PARAMS", "User capability overrides"],
      ["SB_HOME_RW_ACCESS", "HOME relative read-write paths"],
      ["SB_RO_ACCESS", "Paths granted read-only"],
      ["SB_DEV_ACCESS", "Devices under /dev to expose"],
      ["SB_SOCKET_ACCESS", "XDG_RUNTIME_DIR relative sockets"],
      ["SB_WINDOW_SYSTEM", "none, any, x11 or wayland"]]

def printouts : List Printout := [.message usage, .blank, .table table]

end Cloister.Help

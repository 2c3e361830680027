import Cloister.Access.Rules

/-! # Namespaces and system directories

* `Access.namespaces`: what is separated from the host.
* `Access.systemLayout`: the directories that every sandbox has.
* `Access.systemDirectories`: which directories of the system are shown, and how.
-/

namespace Cloister.Access
set_option autoImplicit false

def hostname : String := "sandbox"

/-- The file that could load a library into every program. -/
def preloadFile : String := "/etc/ld.so.preload"

def resolverDir : String := "/run/systemd/resolve"

/-- Directories of programs, each with the restriction that hides it. -/
def programDirectories : List (Capability × String) :=
  [(.hideUsr, "/usr"), (.hideBin, "/usr/bin"), (.hideSbin, "/usr/sbin"),
    (.hideLibexec, "/usr/libexec")]

/-- Directories of libraries, which are never hidden. -/
def libraryDirectories : List String := ["/usr/lib64", "/usr/lib"]

/-- Links that lead from the root to their places beneath `/usr`. -/
def rootLinks : List (String × String) :=
  [("/usr/bin", "/bin"), ("/usr/sbin", "/sbin"), ("/usr/lib64", "/lib64"), ("/usr/lib", "/lib")]

/-- The whole root in permissive mode, then namespaces, the name of the machine, the session and
the processes. -/
def namespaces (a : Access) : List Step :=
  only a.context.permissive [.emit (.bindDevice "/" true)] ++
    [.emit (.dropCapability "ALL"), .emit (.unshare "user"), .emit (.unshare "cgroup")] ++
    only (a.tokens.restricts .unshareUts) [.emit (.unshare "uts"), .emit (.setHostname hostname)] ++
    only (a.tokens.restricts .unshareNetwork) [.emit (.unshare "net")] ++
    only (a.tokens.restricts .newSession) [.emit .newSession] ++
    [.emit (.mountProc "/proc")] ++
    only (a.tokens.restricts .unshareProcesses) [.emit (.unshare "pid")]

/-- The directory of temporary files: hidden, or empty if changes are thrown away, or shared. -/
def temporary (a : Access) : Step :=
  if a.tokens.restricts .hideTmp then .clear "/tmp"
  else if a.context.ephemeral then .emit (.clear (some "/tmp"))
  else .grant (.bindWritable "/tmp")

/-- The directory of running services. Where it is hidden, name resolution stays reachable as long
as the network is that of the host. -/
def services (a : Access) : List Step :=
  if a.tokens.restricts .hideRun then
    .clear "/run" :: only (!a.tokens.restricts .unshareNetwork) [.read resolverDir]
  else [.read "/run"]

/-- The directories of the system, each at its place in the order. -/
def systemLayout (a : Access) : List Step :=
  only (a.tokens.restricts .preventPreload) [.emit (.maskFile preloadFile)] ++
    programDirectories.map (fun (c, path) => a.hideOrRead c path) ++
    libraryDirectories.map Step.read ++
    rootLinks.map (fun (source, target) => .emit (.symlink source target)) ++
    [a.hideOrRead .hideEtc "/etc", a.temporary, a.hideOrRead .hideSys "/sys"] ++
    a.services ++
    [a.hideOrRead .hideVar "/var"]

/-- The directories of the system, and the paths that may be read. -/
def systemDirectories (a : Access) : List Step :=
  a.systemLayout ++ a.settings.readAccess.map Step.read

end Cloister.Access

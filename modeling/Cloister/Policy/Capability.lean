/-! # Capabilities

* `Capability`: the capabilities that the rules ask for, with the two global switches.
* `Capability.name`: the token that names one.
* `Capability.switches`, `Capability.restrictions`, `Capability.grants`: the three groups.
-/

namespace Cloister
set_option autoImplicit false

/-- The capabilities that the rules ask for. -/
inductive Capability where
  | sandbox
  | noSandbox
  | unshareUts
  | unshareNetwork
  | newSession
  | unshareProcesses
  | preventPreload
  | hideUsr
  | hideBin
  | hideSbin
  | hideLibexec
  | hideEtc
  | hideTmp
  | hideSys
  | hideRun
  | hideVar
  | hideSockets
  | hideDevices
  | protectHome
  | ephemeral
  | allowPipewire
  | allowPulseaudio
  | allowDconf
  | allowGpu
  | allowUsb
  | allowShm
  | allowDownloads
  | allowDbus
  deriving DecidableEq, Repr

namespace Capability

def name : Capability → String
  | sandbox => "sandbox"
  | noSandbox => "nosandbox"
  | unshareUts => "unshareuts"
  | unshareNetwork => "unsharenetwork"
  | newSession => "newsession"
  | unshareProcesses => "unshareprocesses"
  | preventPreload => "preventpreload"
  | hideUsr => "hideusr"
  | hideBin => "hidebin"
  | hideSbin => "hidesbin"
  | hideLibexec => "hidelibexec"
  | hideEtc => "hideetc"
  | hideTmp => "hidetmp"
  | hideSys => "hidesys"
  | hideRun => "hiderun"
  | hideVar => "hidevar"
  | hideSockets => "hidesockets"
  | hideDevices => "hidedevices"
  | protectHome => "protecthome"
  | ephemeral => "ephemeral"
  | allowPipewire => "allowpipewire"
  | allowPulseaudio => "allowpulseaudio"
  | allowDconf => "allowdconf"
  | allowGpu => "allowgpu"
  | allowUsb => "allowusb"
  | allowShm => "allowshm"
  | allowDownloads => "allowdownloads"
  | allowDbus => "allowdbus"

def denial (c : Capability) : String := "no" ++ c.name

def switches : List Capability := [sandbox, noSandbox]

/-- Restrictions hold unless they are denied. -/
def restrictions : List Capability :=
  [unshareUts, unshareNetwork, newSession, unshareProcesses, preventPreload, hideUsr, hideBin,
    hideSbin, hideLibexec, hideEtc, hideTmp, hideSys, hideRun, hideVar, hideSockets, hideDevices,
    protectHome]

/-- Grants are given only when they are asked for. -/
def grants : List Capability :=
  [ephemeral, allowPipewire, allowPulseaudio, allowDconf, allowGpu, allowUsb, allowShm,
    allowDownloads, allowDbus]

/-- All capabilities, the switches first. -/
def all : List Capability := switches ++ restrictions ++ grants

theorem mem_all (c : Capability) : c ∈ all := by cases c <;> decide

end Capability
end Cloister

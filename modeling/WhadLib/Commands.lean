import WhadLib.Ble.Exchange
import WhadLib.Device.Exchange
import WhadLib.Dot15d4.Exchange
import WhadLib.Phy.Exchange
import WhadLib.Unifying.Exchange

/-! The commands and notifications of all domains, and when the other side reads what the builder was given. -/
namespace WhadLib
open Library

inductive Command
  | device (c : DeviceCommand)
  | ble (c : Ble.BleCommand)
  | phy (c : Phy.PhyCommand)
  | esb (c : Esb.EsbCommand)
  | unifying (c : Unifying.UnifyingCommand)
  | dot15d4 (c : Dot15d4.Dot15d4Command)

namespace Command

def builder : Command → Builder
  | device c => .device c.builder
  | ble c => .domain (.ble c.builder)
  | phy c => .domain (.phy c.builder)
  | esb c => .domain (.esb c.builder)
  | unifying c => .domain (.unifying c.builder)
  | dot15d4 c => .domain (.dot15d4 c.builder)

/-- The parser of the command returns its arguments. -/
def Returned : Command → FullMessage → Prop
  | device c => c.Returned
  | ble c => c.Returned
  | phy c => c.Returned
  | esb c => c.Returned
  | unifying c => c.Returned
  | dot15d4 c => c.Returned

/-- The arguments are in the range of what stands for them on the wire. -/
def Narrow : Command → Prop
  | device c => c.Narrow
  | ble c => c.Narrow
  | phy c => c.Narrow
  | dot15d4 c => c.Narrow
  | _ => True

/-- The arguments fit their fields, and nothing that the message held before stands in for one that is missing. -/
def Fits : Command → FullMessage → Prop
  | ble c, m => c.Clean m
  | phy c, _ => c.Fits
  | esb c, _ => c.Fits
  | unifying c, _ => c.Fits
  | dot15d4 c, _ => c.Fits
  | device _, _ => True

end Command

section
variable {c : Command} {m : FullMessage}

/-- What fits gets through, domain by domain. -/
theorem Command.exchanged (h : c.Narrow) (hfits : c.Fits m) : Exchanged c.builder c.Returned m := by
  cases c with
  | device c => exact deviceCommand_exchanged c h m
  | ble c => exact (Ble.bleCommand_exchanged_iff c h m).mpr hfits
  | phy c => exact (Phy.phyCommand_exchanged_iff c h m).mpr hfits
  | esb c => exact (Esb.esbCommand_exchanged_iff c m).mpr hfits
  | unifying c => exact (Unifying.unifyingCommand_exchanged_iff c m).mpr hfits
  | dot15d4 c => exact (Dot15d4.dot15d4Command_exchanged_iff c h m).mpr hfits

/-- Nothing else does. -/
theorem Command.fits_of_exchanged (h : c.Narrow) (hexchanged : Exchanged c.builder c.Returned m) : c.Fits m := by
  cases c with
  | device c => trivial
  | ble c => exact (Ble.bleCommand_exchanged_iff c h m).mp hexchanged
  | phy c => exact (Phy.phyCommand_exchanged_iff c h m).mp hexchanged
  | esb c => exact (Esb.esbCommand_exchanged_iff c m).mp hexchanged
  | unifying c => exact (Unifying.unifyingCommand_exchanged_iff c m).mp hexchanged
  | dot15d4 c => exact (Dot15d4.dot15d4Command_exchanged_iff c h m).mp hexchanged

end

/-- A command is built, and its parser returns the arguments there and on the other side, exactly when they fit. -/
theorem command_exchanged_iff (c : Command) (h : c.Narrow) (m : FullMessage) :
    Exchanged c.builder c.Returned m ↔ c.Fits m := ⟨Command.fits_of_exchanged h,Command.exchanged h⟩

/-- A connection with no parameters of its own, on a new message, and on one that holds the CRC of another connection. -/
theorem command_exchanged_iff_connectTo :
    let c := Command.ble (.connectTo (fun _ => 0xAA) ⟨1⟩ 0 none 0 0 0)
    let reused := (default : FullMessage).put (.ble .connect) { (default : Ble.ConnectToCmd) with crcInit := ⟨true,7⟩ }
    Exchanged c.builder c.Returned default ∧ ¬Exchanged c.builder c.Returned reused := by
  intro c reused
  have hnarrow : c.Narrow := ⟨by decide,by decide⟩
  constructor
  · apply (command_exchanged_iff c hnarrow default).mpr
    exact ⟨fun _ => rfl,fun _ h => absurd h (by decide),fun _ => rfl,fun _ => rfl,fun _ => rfl⟩
  · intro h
    obtain ⟨-,-,-,-,hcrc⟩ := (command_exchanged_iff c hnarrow reused).mp h
    exact absurd (hcrc rfl) (by decide)

end WhadLib

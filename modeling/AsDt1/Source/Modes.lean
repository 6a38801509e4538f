import Mathlib.Data.List.Basic

/-!
# Sensor mode table

src/asdt1_driver/src/device/dt1_modes.h and dt1_modes.cpp. Modes are addressed
by their row number everywhere in the driver; only the node and the device's
own `flmode` reply use the names.
-/
namespace AsDt1.Source

structure ModeInfo where
  modeStr : String
  nbrPointsX : Nat
  nbrPointsY : Nat
  histFrameWidth : Nat
  histFrameHeight : Nat
  nbrBanks : Nat
  totExposure : Nat
  deriving DecidableEq, Repr

def dt1ModesList : List ModeInfo :=
  [⟨"20m", 24, 24, 800, 504, 24, 32⟩, ⟨"30mstd", 24, 24, 800, 252, 12, 32⟩,
   ⟨"30m15f", 24, 24, 800, 252, 12, 65⟩, ⟨"30m30f", 24, 12, 800, 126, 6, 32⟩,
   ⟨"40m", 24, 24, 800, 252, 12, 65⟩]

/-- `std::tolower` per character in the "C" locale, which only touches A to Z. -/
def equalsIgnoreCase (a b : String) : Bool :=
  a.toList.map Char.toLower == b.toList.map Char.toLower

/-- Row of the first mode with that name, -1 when there is none. -/
def getModeNbr (modeStr : String) : Int :=
  match dt1ModesList.findIdx? fun mode => equalsIgnoreCase mode.modeStr modeStr with
  | some i => i
  | none => -1

def getAvailableModesStr : String :=
  dt1ModesList.foldl (fun modesStr mode => modesStr ++ (mode.modeStr ++ " ")) ""

/-- A found mode number is a row of the table, so `set_mode` accepts it. -/
theorem getModeNbr_lt (modeStr : String) : getModeNbr modeStr < dt1ModesList.length := by
  unfold getModeNbr
  split
  · next i found =>
    obtain ⟨bound, -⟩ := List.findIdx?_eq_some_iff_getElem.mp found
    exact_mod_cast bound
  · decide

example : getModeNbr "30MSTD" = 1 := by decide

end AsDt1.Source

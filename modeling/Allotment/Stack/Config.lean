import Allotment.Text.Written

namespace Allotment

structure StackConfig where
  trackStats : Bool
  /-- New bytes of a block are filled with this byte. -/
  allocPattern : Option UInt8
  /-- Released bytes are filled with this byte. -/
  deallocPattern : Option UInt8
  failFast : Bool
  deriving DecidableEq

namespace StackConfig

/-- No counting and no filling. -/
def production : StackConfig := ⟨false, none, none, false⟩

/-- Counts, and marks new bytes `0xCC` and released bytes `0xDD`. -/
def debug : StackConfig := ⟨true, some 0xCC, some 0xDD, false⟩

/-- As in production, but running out of room is fatal. -/
def failing : StackConfig := { production with failFast := true }

/-- The configuration of a stack built without one. -/
def standard : StackConfig := debug

def text (config : StackConfig) : String :=
  let pattern (byte : Option UInt8) := Text.optional (byte.map fun byte => toString byte.toNat)
  Text.record "StackConfig"
    [("track_stats", Text.truth config.trackStats),
      ("alloc_pattern", pattern config.allocPattern),
      ("dealloc_pattern", pattern config.deallocPattern),
      ("fail_fast", Text.truth config.failFast)] false

end StackConfig
end Allotment

import Urp.Frame.Layout
import Urp.Stream.State

/-!
# What an endpoint was set up with

The layout of its buffers and the sizes from which it resolves the window of a
stream.
-/

namespace Urp

open Urp.Frame Urp.Window

structure Settings where
  geometry : Geometry
  sizes : Sizes
  size : sizes.bufSize = geometry.bufSize
  pool : 16 ≤ sizes.numBufs

def Settings.window (z : Settings) : Nat := z.sizes.window

theorem Settings.window_bounds (z : Settings) :
    targetFrames * z.geometry.bufSize ≤ z.window ∧ z.window ≤ windowBytesMax := by
  rw [← z.size]
  exact windowForStream_bounds _ _ _ z.pool (z.size ▸ z.geometry.size_max)

def smallSettings : Settings where
  geometry := Geometry.resolve 4096 1
  sizes := ⟨0, 4096, 16, 0, 0⟩
  size := by decide
  pool := by decide

end Urp

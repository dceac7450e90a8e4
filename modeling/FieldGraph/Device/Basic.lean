import FieldGraph.Geometry.Vec
import FieldGraph.Shader.Dialect

/-!
# Devices

Graphics devices cannot be reached from this program. What they would be asked is still
checked, so that a request fails for the first reason there is.
-/

namespace FieldGraph.Device

/-- Why a device was not used. -/
inductive Fault where
  /-- There is no device. -/
  | unavailable
  /-- The device takes programs in one language only. -/
  | wrongDialect (got : Dialect)
  /-- There is no window system. -/
  | noWindows
  /-- There is nothing to show. -/
  | noSource
  deriving DecidableEq, Repr

/-- The text of a fault. -/
def Fault.message : Fault → String
  | unavailable => "GPU evaluation requires CGo and is not supported on TinyGo"
  | wrongDialect got =>
      "GPU evaluation requires " ++ Dialect.glsl.name ++ " shader, got " ++ got.name
  | noWindows => "require cgo for UI rendering"
  | noSource => "nil shader source"

/-- Why a compute program in a language does not run. -/
def computeFault (dialect : Dialect) : Fault :=
  if dialect ≠ .glsl then .wrongDialect dialect else .unavailable

/-- Why a window does not open. -/
def windowFault (hasSource : Bool) : Fault := if hasSource then .noWindows else .noSource

/-- What a window should look like. -/
structure Window where
  width : Int
  height : Int
  /-- Characteristic size of the scene. -/
  reach : Float32

/-- A window with defaults where values are not positive. -/
def Window.withDefaults (w : Window) : Window where
  width := if w.width ≤ 0 then 800 else w.width
  height := if w.height ≤ 0 then 600 else w.height
  reach := if w.reach ≤ 0 then 4 else w.reach

end FieldGraph.Device

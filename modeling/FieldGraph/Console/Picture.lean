import FieldGraph.Device.Basic
import FieldGraph.Image.Slice
import FieldGraph.Session.Basic

/-!
# Pictures of scenes

The slice picture of a session's graph, framed by a cube around the origin. A device is asked for
first if one is wanted; there is none.
-/

namespace FieldGraph.Console

/-- Why there is no picture. -/
inductive PictureError where
  | device (fault : Device.Fault)
  | order (error : OrderError)
  | build (error : BuildError)
  | render (error : RenderError)

/-- The text of a picture error. -/
def PictureError.message : PictureError → String
  | device fault => "starting GPU evaluation: " ++ fault.message
  | order error => error.message
  | build error => error.message
  | render error => error.message

/-- Pixels across and down. -/
def pictureSize : Int := 512

/-- The field of a graph in a cube of some size. -/
def framedField (graph : Graph) (size : Float32) : Except PictureError Field :=
  match graph.order with
  | .error error => .error (.order error)
  | .ok order =>
      match Field.of graph order (.centred size) with
      | .error error => .error (.build error)
      | .ok field => .ok field

/-- What a picture is made from. -/
def pictureField (graph : Graph) (gpu : Bool) (size : Float32) : Except PictureError Field :=
  if gpu then .error (.device .unavailable) else framedField graph size

/-- Paint the slice at a height. -/
def paintSlice (field : Field) (z : Float32) : Except PictureError (List (List Colour)) :=
  match ((renderSlice (some field.source)
      { width := pictureSize, height := pictureSize, z }).run field.fresh).1 with
  | .ok rows => .ok rows
  | .error error => .error (.render error)

end FieldGraph.Console

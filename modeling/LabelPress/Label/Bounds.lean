import LabelPress.Label.Canvas
import LabelPress.Label.Element

/-
  The rectangle that an element covers.

  Key definitions include:
    * `Bounds`
    * `Element.bounds`
    * `Element.isInside`
-/

namespace LabelPress

/- The edges and sizes of a rectangle. -/
structure Bounds where
  left : Double
  top : Double
  right : Double
  bottom : Double
  width : Double
  height : Double
  deriving DecidableEq

namespace Element

/- The rectangle of an element; what is no number counts as zero. -/
def bounds
    (e : Element) :
    Except Fault Bounds := do
  let left ← e.x.finiteDouble
  let top ← e.y.finiteDouble
  let width ← e.width.finiteDouble
  let height ← e.height.finiteDouble
  return ⟨left, top, left + width, top + height, width, height⟩

/- Whether a number is at most a value, which must be a number. -/
def atMost
    (x : Double)
    (limit : Value) :
    Except Fault Bool := do
  let order ← Value.compareNumber (.double x) limit
  return order == some .lt || order == some .eq

/-
  Whether an element lies on a canvas.  The canvas is looked at
  only as far as needed.
-/
def isInside
    (e : Element)
    (canvas : Canvas) :
    Except Fault Bool := do
  let b ← e.bounds
  if Double.le 0 b.left && Double.le 0 b.top then
    let fits ← atMost b.right canvas.width
    if fits then atMost b.bottom canvas.height
    else return false
  else return false

end Element

end LabelPress

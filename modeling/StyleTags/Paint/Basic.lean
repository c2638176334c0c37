import StyleTags.Escape

/-!
# Paint

A paint is a color together with the layer that takes it.  A color is given either by the
levels of a color cube with 6 steps a side, or by three bytes.
-/

namespace StyleTags

/-- What a color is laid on: the characters themselves or the ground behind them. -/
inductive Layer where
  | foreground
  | background
  deriving DecidableEq, Repr

/-- The rendition parameter that sets the color of a layer. -/
def Layer.selector : Layer → Nat
  | .foreground => 38
  | .background => 48

/-- A color of text. -/
inductive Color where
  /-- An entry of the color cube, by its levels of red, green and blue. -/
  | cube (red green blue : UInt8)
  /-- A color by its three bytes. -/
  | rgb (red green blue : UInt8)
  deriving DecidableEq, Repr

/-- The number of an entry of the color cube.  A level that the cube does not have is
counted on as if it had. -/
def Color.cubeIndex (red green blue : UInt8) : Nat :=
  16 + 36 * red.toNat + 6 * green.toNat + blue.toNat

/-- The rendition parameters that name a color. -/
def Color.parameters : Color → List Nat
  | .cube r g b => [5, cubeIndex r g b]
  | .rgb r g b => [2, r.toNat, g.toNat, b.toNat]

/-- A color on a layer. -/
structure Paint where
  layer : Layer
  color : Color
  deriving DecidableEq, Repr

/-- The escape sequence that selects a paint. -/
def Paint.escape (p : Paint) : String :=
  String.ofList (Escape.rendition (p.layer.selector :: p.color.parameters))

end StyleTags

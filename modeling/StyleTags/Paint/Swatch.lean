/-!
# Swatches

Colors known by name.  Names are matched to the letter.  One of the colors lets everything
behind it through and so can paint nothing; all others are solid.
-/

namespace StyleTags

/-- A color by its share of red, green and blue, and by how much it covers. -/
structure Swatch where
  red : UInt8
  green : UInt8
  blue : UInt8
  alpha : UInt8
  deriving DecidableEq, Repr

namespace Swatch

/-- A color that covers fully. -/
def solid (red green blue : UInt8) : Swatch :=
  ⟨red, green, blue, 255⟩

/-- Whether a color covers fully. -/
def isSolid (c : Swatch) : Bool :=
  c.alpha == 255

/-- The colors that have a name, sorted by it. -/
def entries : List (String × Swatch) :=
  [
    ("AliceBlue", .solid 240 248 255),
    ("AntiqueWhite", .solid 250 235 215),
    ("Aqua", .solid 0 255 255),
    ("Aquamarine", .solid 127 255 212),
    ("Azure", .solid 240 255 255),
    ("Beige", .solid 245 245 220),
    ("Bisque", .solid 255 228 196),
    ("Black", .solid 0 0 0),
    ("BlanchedAlmond", .solid 255 235 205),
    ("Blue", .solid 0 0 255),
    ("BlueViolet", .solid 138 43 226),
    ("Brown", .solid 165 42 42),
    ("BurlyWood", .solid 222 184 135),
    ("CadetBlue", .solid 95 158 160),
    ("Chartreuse", .solid 127 255 0),
    ("Chocolate", .solid 210 105 30),
    ("Coral", .solid 255 127 80),
    ("CornflowerBlue", .solid 100 149 237),
    ("Cornsilk", .solid 255 248 220),
    ("Crimson", .solid 220 20 60),
    ("Cyan", .solid 0 255 255),
    ("DarkBlue", .solid 0 0 139),
    ("DarkCyan", .solid 0 139 139),
    ("DarkGoldenrod", .solid 184 134 11),
    ("DarkGray", .solid 169 169 169),
    ("DarkGreen", .solid 0 100 0),
    ("DarkKhaki", .solid 189 183 107),
    ("DarkMagenta", .solid 139 0 139),
    ("DarkOliveGreen", .solid 85 107 47),
    ("DarkOrange", .solid 255 140 0),
    ("DarkOrchid", .solid 153 50 204),
    ("DarkRed", .solid 139 0 0),
    ("DarkSalmon", .solid 233 150 122),
    ("DarkSeaGreen", .solid 143 188 139),
    ("DarkSlateBlue", .solid 72 61 139),
    ("DarkSlateGray", .solid 47 79 79),
    ("DarkTurquoise", .solid 0 206 209),
    ("DarkViolet", .solid 148 0 211),
    ("DeepPink", .solid 255 20 147),
    ("DeepSkyBlue", .solid 0 191 255),
    ("DimGray", .solid 105 105 105),
    ("DodgerBlue", .solid 30 144 255),
    ("Firebrick", .solid 178 34 34),
    ("FloralWhite", .solid 255 250 240),
    ("ForestGreen", .solid 34 139 34),
    ("Fuchsia", .solid 255 0 255),
    ("Gainsboro", .solid 220 220 220),
    ("GhostWhite", .solid 248 248 255),
    ("Gold", .solid 255 215 0),
    ("Goldenrod", .solid 218 165 32),
    ("Gray", .solid 128 128 128),
    ("Green", .solid 0 128 0),
    ("GreenYellow", .solid 173 255 47),
    ("Honeydew", .solid 240 255 240),
    ("HotPink", .solid 255 105 180),
    ("IndianRed", .solid 205 92 92),
    ("Indigo", .solid 75 0 130),
    ("Ivory", .solid 255 255 240),
    ("Khaki", .solid 240 230 140),
    ("Lavender", .solid 230 230 250),
    ("LavenderBlush", .solid 255 240 245),
    ("LawnGreen", .solid 124 252 0),
    ("LemonChiffon", .solid 255 250 205),
    ("LightBlue", .solid 173 216 230),
    ("LightCoral", .solid 240 128 128),
    ("LightCyan", .solid 224 255 255),
    ("LightGoldenrodYellow", .solid 250 250 210),
    ("LightGray", .solid 211 211 211),
    ("LightGreen", .solid 144 238 144),
    ("LightPink", .solid 255 182 193),
    ("LightSalmon", .solid 255 160 122),
    ("LightSeaGreen", .solid 32 178 170),
    ("LightSkyBlue", .solid 135 206 250),
    ("LightSlateGray", .solid 119 136 153),
    ("LightSteelBlue", .solid 176 196 222),
    ("LightYellow", .solid 255 255 224),
    ("Lime", .solid 0 255 0),
    ("LimeGreen", .solid 50 205 50),
    ("Linen", .solid 250 240 230),
    ("Magenta", .solid 255 0 255),
    ("Maroon", .solid 128 0 0),
    ("MediumAquamarine", .solid 102 205 170),
    ("MediumBlue", .solid 0 0 205),
    ("MediumOrchid", .solid 186 85 211),
    ("MediumPurple", .solid 147 112 219),
    ("MediumSeaGreen", .solid 60 179 113),
    ("MediumSlateBlue", .solid 123 104 238),
    ("MediumSpringGreen", .solid 0 250 154),
    ("MediumTurquoise", .solid 72 209 204),
    ("MediumVioletRed", .solid 199 21 133),
    ("MidnightBlue", .solid 25 25 112),
    ("MintCream", .solid 245 255 250),
    ("MistyRose", .solid 255 228 225),
    ("Moccasin", .solid 255 228 181),
    ("NavajoWhite", .solid 255 222 173),
    ("Navy", .solid 0 0 128),
    ("OldLace", .solid 253 245 230),
    ("Olive", .solid 128 128 0),
    ("OliveDrab", .solid 107 142 35),
    ("Orange", .solid 255 165 0),
    ("OrangeRed", .solid 255 69 0),
    ("Orchid", .solid 218 112 214),
    ("PaleGoldenrod", .solid 238 232 170),
    ("PaleGreen", .solid 152 251 152),
    ("PaleTurquoise", .solid 175 238 238),
    ("PaleVioletRed", .solid 219 112 147),
    ("PapayaWhip", .solid 255 239 213),
    ("PeachPuff", .solid 255 218 185),
    ("Peru", .solid 205 133 63),
    ("Pink", .solid 255 192 203),
    ("Plum", .solid 221 160 221),
    ("PowderBlue", .solid 176 224 230),
    ("Purple", .solid 128 0 128),
    ("RebeccaPurple", .solid 102 51 153),
    ("Red", .solid 255 0 0),
    ("RosyBrown", .solid 188 143 143),
    ("RoyalBlue", .solid 65 105 225),
    ("SaddleBrown", .solid 139 69 19),
    ("Salmon", .solid 250 128 114),
    ("SandyBrown", .solid 244 164 96),
    ("SeaGreen", .solid 46 139 87),
    ("SeaShell", .solid 255 245 238),
    ("Sienna", .solid 160 82 45),
    ("Silver", .solid 192 192 192),
    ("SkyBlue", .solid 135 206 235),
    ("SlateBlue", .solid 106 90 205),
    ("SlateGray", .solid 112 128 144),
    ("Snow", .solid 255 250 250),
    ("SpringGreen", .solid 0 255 127),
    ("SteelBlue", .solid 70 130 180),
    ("Tan", .solid 210 180 140),
    ("Teal", .solid 0 128 128),
    ("Thistle", .solid 216 191 216),
    ("Tomato", .solid 255 99 71),
    ("Transparent", ⟨255, 255, 255, 0⟩),
    ("Turquoise", .solid 64 224 208),
    ("Violet", .solid 238 130 238),
    ("Wheat", .solid 245 222 179),
    ("White", .solid 255 255 255),
    ("WhiteSmoke", .solid 245 245 245),
    ("Yellow", .solid 255 255 0),
    ("YellowGreen", .solid 154 205 50)
  ]

/-- The color of a name, if there is one. -/
def find? (name : String) : Option Swatch :=
  entries.lookup name

end Swatch

end StyleTags

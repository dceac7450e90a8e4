/-!
# Variants of marks and letters

Older character sets have characters of their own for narrow, wide, circled or joined letters. They
are never replaced by what they stand for, but a variant counts as many marks as that has.
-/

namespace FieldGraph.Text

/-- Change points of the variants of a single mark. -/
def markVariants : List Nat :=
  [0x3133, 0x3134, 0x3135, 0x3137, 0x313a, 0x3140, 0x314f, 0x3164, 0xff9e, 0xffa0, 0xffa3, 0xffa4,
   0xffa5, 0xffa7, 0xffaa, 0xffb0, 0xffc2, 0xffc8, 0xffca, 0xffd0, 0xffd2, 0xffd8, 0xffda, 0xffdd]

/-- Change points of the variants that end in one mark. -/
def markedVariants : List Nat :=
  [0xa8, 0xa9, 0xaf, 0xb0, 0xb4, 0xb5, 0xb8, 0xb9, 0x1c4, 0x1c7, 0x2d8, 0x2de, 0x37a, 0x37b,
   0x384, 0x385, 0x1fbd, 0x1fbe, 0x1fbf, 0x1fc1, 0x1ffd, 0x1fff, 0x2017, 0x2018, 0x203e, 0x203f,
   0x309b, 0x309d, 0x326e, 0x327f, 0x3304, 0x3305, 0x3307, 0x3308, 0x3310, 0x3311, 0x331e, 0x331f,
   0x3321, 0x3322, 0x3332, 0x3333, 0x333b, 0x333c, 0x3340, 0x3341, 0x334b, 0x334c, 0x334e, 0x334f,
   0xfba4, 0xfba6, 0xfbb0, 0xfbb2, 0xfc5b, 0xfc5e, 0xfc90, 0xfc91, 0xfcd9, 0xfcda, 0xfd3c, 0xfd3e,
   0xfe49, 0xfe4d, 0xfe70, 0xfe73, 0xfe74, 0xfe75, 0xfe76, 0xfe80, 0xfe81, 0xfe8d, 0xfef5, 0xfefb,
   0xffe3, 0xffe4, 0x1f213, 0x1f214]

/-- Change points of the variants that end in two marks. -/
def twiceMarkedVariants : List Nat :=
  [0x385, 0x386, 0xf77, 0xf78, 0xf79, 0xf7a, 0x1fc1, 0x1fc2, 0x1fcd, 0x1fd0, 0x1fdd, 0x1fe0,
   0x1fed, 0x1fef, 0xfc5e, 0xfc64, 0xfcf2, 0xfcf5]

end FieldGraph.Text

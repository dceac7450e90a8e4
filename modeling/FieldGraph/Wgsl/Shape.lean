import FieldGraph.Wgsl.Tree

/-!
# Shapes of values

Of the type of a value only its shape is kept: how many components it has and which parts it can
be asked for. Kinds of numbers are not compared. The shape of a value that depends on more than
that is not known.
-/

namespace FieldGraph.Wgsl

/-- What is known of the type of a value. -/
inductive Shape where
  | unknown
  | scalar
  | vector (size : Nat)
  | matrix (columns rows : Nat)
  | array (element : Shape)
  /-- A structure, by its name. -/
  | record (name : String)
  /-- The result of a predeclared function with several parts of one shape. -/
  | parts (names : List String) (each : Shape)
  | pointer (target : Shape)
  /-- Textures, samplers and atomics, which have no parts. -/
  | handle
  deriving DecidableEq, Repr

namespace Shape

/-- The place of a component by its letter. -/
def componentOf? : Char → Option Nat
  | 'x' | 'r' => some 0
  | 'y' | 'g' => some 1
  | 'z' | 'b' => some 2
  | 'w' | 'a' => some 3
  | _ => none

/-- The components of a vector that letters select: one, or a vector of up to four. -/
def swizzle? (size : Nat) (letters : String) : Option Shape := do
  let places ← letters.toList.mapM componentOf?
  if places.all (· < size) then
    match places.length with
    | 1 => some scalar
    | 2 | 3 | 4 => some (vector places.length)
    | _ => none
  else none

/-- The part of a value for an index. -/
def item? : Shape → Option Shape
  | unknown => some unknown
  | vector _ => some scalar
  | matrix _ rows => some (vector rows)
  | array element => some element
  | pointer target => item? target
  | _ => none

/-- What a pointer points to. -/
def pointee : Shape → Shape
  | pointer target => target
  | _ => unknown

/-- Whether a value may point to another. -/
def mayPoint : Shape → Bool
  | pointer _ | unknown => true
  | _ => false

/-- The shape of two operands combined component by component. A scalar is combined with each
component. -/
def combine : Shape → Shape → Shape
  | scalar, b => b
  | a, scalar => a
  | a, b => if a = b then a else unknown

/-- The shape of a product. -/
def product : Shape → Shape → Shape
  | matrix _ rows, vector _ => vector rows
  | vector _, matrix columns _ => vector columns
  | matrix _ rows, matrix columns _ => matrix columns rows
  | a, b => combine a b

/-- The shape of an operator's result. -/
def ofBinary (op : String) (a b : Shape) : Shape :=
  if op ∈ ["&&", "||"] then scalar
  else if op = "*" then product a b
  else if op ∈ ["<<", ">>"] then a
  else combine a b

/-- The shape of the result of an operator with one operand. -/
def ofUnary (op : String) (a : Shape) : Shape :=
  if op = "&" then pointer a
  else if op = "*" then pointee a
  else a

/-! ## Predeclared types -/

/-- Sizes of vectors and matrices. -/
def sizes : List (String × Nat) := [("2", 2), ("3", 3), ("4", 4)]

/-- Vectors and matrices by their names without letters for the kind of number. -/
def numeric : List (String × Shape) :=
  (sizes.map fun (digit, n) => ("vec" ++ digit, vector n)) ++
    sizes.flatMap fun (digit, c) =>
      sizes.map fun (other, r) => ("mat" ++ digit ++ "x" ++ other, matrix c r)

/-- Types without template lists. -/
def plain : List (String × Shape) :=
  (["bool", "i32", "u32", "f32", "f16"].map fun name => (name, scalar)) ++
    (["sampler", "sampler_comparison", "texture_depth_2d", "texture_depth_2d_array",
      "texture_depth_cube", "texture_depth_cube_array", "texture_depth_multisampled_2d",
      "texture_external"].map fun name => (name, handle)) ++
    (["i", "u", "f", "h"].flatMap fun letter =>
      (numeric.take 3).map fun (name, shape) => (name ++ letter, shape)) ++
    (["f", "h"].flatMap fun letter =>
      (numeric.drop 3).map fun (name, shape) => (name ++ letter, shape))

/-- Types of resources that take template lists. -/
def resources : List String :=
  ["atomic", "texture_1d", "texture_2d", "texture_2d_array", "texture_3d", "texture_cube",
   "texture_cube_array", "texture_multisampled_2d", "texture_storage_1d", "texture_storage_2d",
   "texture_storage_2d_array", "texture_storage_3d"]

/-- Names after which an angle bracket opens a template list. -/
def generics : List String :=
  numeric.map (·.1) ++ resources ++ ["array", "ptr", "bitcast"]

/-- Words of template lists that are neither types nor values. -/
def enumerants : List String :=
  ["function", "private", "workgroup", "uniform", "storage", "read", "write", "read_write",
   "rgba8unorm", "rgba8snorm", "rgba8uint", "rgba8sint", "rgba16uint", "rgba16sint",
   "rgba16float", "r32uint", "r32sint", "r32float", "rg32uint", "rg32sint", "rg32float",
   "rgba32uint", "rgba32sint", "rgba32float", "bgra8unorm"]

/-! ## Predeclared functions -/

/-- How the shape of a function's result follows from its arguments. -/
inductive Rule where
  /-- There is no result. -/
  | nothing
  /-- That of the first argument. -/
  | first
  /-- That of all arguments combined. -/
  | combined
  | fixed (shape : Shape)
  /-- Several parts, each of the shape of the first argument. -/
  | split (names : List String)
  /-- The transposed matrix. -/
  | transposed
  /-- What the first argument points to. -/
  | pointee

/-- Functions that every module may call, with one rule and one number of arguments, if that is
fixed. -/
structure Family where
  rule : Rule
  arity : Option Nat
  names : List String

/-- The functions every module may call. -/
def families : List Family :=
  [⟨.first, some 1,
     ["abs", "acos", "acosh", "asin", "asinh", "atan", "atanh", "ceil", "cos", "cosh",
      "countLeadingZeros", "countOneBits", "countTrailingZeros", "degrees", "dpdx", "dpdxCoarse",
      "dpdxFine", "dpdy", "dpdyCoarse", "dpdyFine", "exp", "exp2", "firstLeadingBit",
      "firstTrailingBit", "floor", "fract", "fwidth", "fwidthCoarse", "fwidthFine",
      "inverseSqrt", "log", "log2", "normalize", "quantizeToF16", "radians", "reverseBits",
      "round", "saturate", "sign", "sin", "sinh", "sqrt", "tan", "tanh", "trunc"]⟩,
   ⟨.first, some 2, ["cross", "ldexp", "reflect"]⟩,
   ⟨.first, some 3, ["extractBits", "faceForward", "refract"]⟩,
   ⟨.first, some 4, ["insertBits"]⟩,
   ⟨.combined, some 2, ["atan2", "max", "min", "pow", "step"]⟩,
   ⟨.combined, some 3, ["clamp", "fma", "mix", "select", "smoothstep"]⟩,
   ⟨.fixed .scalar, some 1,
     ["all", "any", "arrayLength", "determinant", "length", "pack2x16float", "pack2x16snorm",
      "pack2x16unorm", "pack4x8snorm", "pack4x8unorm", "pack4xI8", "pack4xI8Clamp", "pack4xU8",
      "pack4xU8Clamp", "textureNumLayers", "textureNumLevels", "textureNumSamples"]⟩,
   ⟨.fixed .scalar, some 2, ["distance", "dot", "dot4I8Packed", "dot4U8Packed"]⟩,
   ⟨.fixed (.vector 2), some 1, ["unpack2x16float", "unpack2x16snorm", "unpack2x16unorm"]⟩,
   ⟨.fixed (.vector 4), some 1, ["unpack4x8snorm", "unpack4x8unorm", "unpack4xI8", "unpack4xU8"]⟩,
   ⟨.split ["fract", "exp"], some 1, ["frexp"]⟩,
   ⟨.split ["fract", "whole"], some 1, ["modf"]⟩,
   ⟨.transposed, some 1, ["transpose"]⟩,
   ⟨.pointee, some 1, ["workgroupUniformLoad"]⟩,
   ⟨.fixed .unknown, some 1, ["atomicLoad"]⟩,
   ⟨.fixed .unknown, some 2,
     ["atomicAdd", "atomicAnd", "atomicExchange", "atomicMax", "atomicMin", "atomicOr", "atomicSub",
      "atomicXor", "outerProduct"]⟩,
   ⟨.fixed .unknown, some 3, ["atomicCompareExchangeWeak"]⟩,
   ⟨.fixed .unknown, none,
     ["subgroupAdd", "subgroupAll", "subgroupAnd", "subgroupAny", "subgroupBallot",
      "subgroupBroadcast", "subgroupBroadcastFirst", "subgroupElect", "subgroupExclusiveAdd",
      "subgroupExclusiveMul", "subgroupInclusiveAdd", "subgroupInclusiveMul", "subgroupMax",
      "subgroupMin", "subgroupMul", "subgroupOr", "subgroupShuffle", "subgroupShuffleDown",
      "subgroupShuffleUp", "subgroupShuffleXor", "subgroupXor", "textureDimensions",
      "textureGather", "textureGatherCompare", "textureLoad", "textureSample",
      "textureSampleBaseClampToEdge", "textureSampleBias", "textureSampleCompare",
      "textureSampleCompareLevel", "textureSampleGrad", "textureSampleLevel"]⟩,
   ⟨.nothing, some 2, ["atomicStore"]⟩,
   ⟨.nothing, some 0,
     ["storageBarrier", "subgroupBarrier", "textureBarrier", "workgroupBarrier"]⟩,
   ⟨.nothing, none, ["textureStore"]⟩]

/-- The family of a predeclared function. -/
def familyOf? (name : String) : Option Family := families.find? fun f => name ∈ f.names

/-- The result of a rule for some arguments, if there is one. -/
def Rule.apply (arguments : List Shape) : Rule → Option Shape
  | .nothing => none
  | .first => some (arguments.headD .unknown)
  | .combined => some (arguments.foldl combine .scalar)
  | .fixed shape => some shape
  | .split names => some (.parts names (arguments.headD .unknown))
  | .transposed =>
      match arguments.head? with
      | some (.matrix columns rows) => some (.matrix rows columns)
      | _ => some .unknown
  | .pointee => some (arguments.headD .unknown).pointee

end Shape

end FieldGraph.Wgsl

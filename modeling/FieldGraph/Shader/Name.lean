/-!
# Names of generated functions

A node function is named after its kind and a hash of its body, so equal code always has the
same name. The hash runs over blocks of eight bytes; each block is mixed in by a bijection of
64 bit words, hence a difference inside one block can never cancel.
-/

namespace FieldGraph.Shader

/-- The little endian word of at most eight bytes. -/
def word : List UInt8 → UInt64
  | [] => 0
  | b :: rest => b.toUInt64 ||| (word rest <<< 8)

/-- Scramble a word without losing information. -/
def scramble (x : UInt64) : UInt64 :=
  let x := (x ^^^ (x >>> 30)) * 0xbf58476d1ce4e5b9
  let x := (x ^^^ (x >>> 27)) * 0x94d049bb133111eb
  x ^^^ (x >>> 31)

/-- Hash bytes from a seed; a last partial block is padded with zeros. -/
def hash (bytes : List UInt8) (seed : UInt64) : UInt64 :=
  match bytes with
  | [] => seed
  | b :: rest => hash (rest.drop 7) (scramble (seed ^^^ word (b :: rest.take 7)))
termination_by bytes.length
decreasing_by
  rw [List.length_drop, List.length_cons]
  omega

/-- The bytes of a text. -/
def utf8 (s : String) : List UInt8 := s.toUTF8.toList

/-- Hash a text from a seed. -/
def hashText (s : String) (seed : UInt64) : UInt64 := hash (utf8 s) seed

/-- A digit of base 32. -/
def digit32 (n : Nat) : Char :=
  if n < 10 then Char.ofNat ('0'.toNat + n) else Char.ofNat ('a'.toNat + (n - 10))

/-- A natural in base 32, most significant digit first. -/
def base32 (n : Nat) : List Char :=
  if n < 32 then [digit32 n] else base32 (n / 32) ++ [digit32 (n % 32)]
termination_by n
decreasing_by omega

/-- A byte as a character of a name: what is not an ASCII letter or digit becomes an
underscore. -/
def nameChar (b : UInt8) : Char :=
  let c := Char.ofNat b.toNat
  if ('a' ≤ c && c ≤ 'z') || ('A' ≤ c && c ≤ 'Z') || ('0' ≤ c && c ≤ '9') then c else '_'

/-- The name of a node function from the bytes of the identity of its kind and of its body. -/
def nameOfBytes (kind body : List UInt8) : String :=
  let tag := hash body (hash kind 0)
  String.ofList (kind.map nameChar ++ '_' :: base32 tag.toNat)

/-- The name of a node function from the identity of its kind and its body. -/
def functionName (kindId body : String) : String := nameOfBytes (utf8 kindId) (utf8 body)

end FieldGraph.Shader

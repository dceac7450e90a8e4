import FieldGraph.Image.Colour

/-!
# Pictures as files

Portable network graphics store colours that are not multiplied by their opacity, in eight bits,
so a picture with transparent pixels loses a little when it is written and read again. A picture
without any is stored as it is. Pixel data is stored without compression.
-/

namespace FieldGraph.Png

/-- Whether a picture has no transparent pixel. -/
def isOpaque (rows : List (List Colour)) : Bool := rows.all fun row => row.all (·.a == 255)

/-- A channel divided by the opacity. -/
def divided (c a : UInt8) : UInt8 :=
  UInt8.ofNat ((c.toNat * 0x101 * 0xffff / (a.toNat * 0x101)) / 256)

/-- A channel multiplied by the opacity. -/
def multiplied (c a : UInt8) : UInt8 := UInt8.ofNat (c.toNat * 0x101 * a.toNat / 0xff / 256)

/-- A pixel as it is stored. -/
def stored (p : Colour) : Colour :=
  if p.a = 0 then .clear
  else if p.a = 255 then p
  else ⟨divided p.r p.a, divided p.g p.a, divided p.b p.a, p.a⟩

/-- A stored pixel as it is seen. -/
def shown (p : Colour) : Colour :=
  ⟨multiplied p.r p.a, multiplied p.g p.a, multiplied p.b p.a, p.a⟩

/-- A picture as it is seen after it was written and read. -/
def seen (rows : List (List Colour)) : List (List Colour) :=
  if isOpaque rows then rows else rows.map fun row => row.map fun p => shown (stored p)

/-- Four bytes, most significant first. -/
def bytes32 (n : Nat) : List UInt8 :=
  [UInt8.ofNat (n / 0x1000000), UInt8.ofNat (n / 0x10000), UInt8.ofNat (n / 0x100), UInt8.ofNat n]

/-- Two bytes, least significant first. -/
def bytes16 (n : Nat) : List UInt8 := [UInt8.ofNat n, UInt8.ofNat (n / 0x100)]

/-- One bit of the cyclic check sum. -/
def checkBit (c : UInt32) : UInt32 :=
  if c &&& 1 = 1 then (0xedb88320 : UInt32) ^^^ (c >>> 1) else c >>> 1

/-- The check sums of single bytes. -/
def checkTable : Array UInt32 :=
  (Array.range 256).map fun n =>
    checkBit (checkBit (checkBit (checkBit (checkBit (checkBit (checkBit (checkBit
      (UInt32.ofNat n))))))))

/-- The cyclic check sum of some bytes. -/
def checkSum (data : ByteArray) : Nat :=
  let step (c : UInt32) (b : UInt8) : UInt32 :=
    checkTable.getD ((c ^^^ b.toUInt32) &&& 0xff).toNat 0 ^^^ (c >>> 8)
  (data.foldl step 0xffffffff ^^^ 0xffffffff).toNat

/-- The sum that ends a compressed stream. -/
def adler (data : ByteArray) : Nat :=
  let step (s : Nat × Nat) (b : UInt8) : Nat × Nat :=
    let low := (s.1 + b.toNat) % 65521
    (low, (s.2 + low) % 65521)
  let (low, high) := data.foldl step (1, 0)
  high * 65536 + low

/-- Some bytes after others. -/
def push (data : ByteArray) (more : List UInt8) : ByteArray := more.foldl ByteArray.push data

/-- A chunk with its length, name and check sum. -/
def chunk (name : String) (data : ByteArray) : ByteArray :=
  let body := name.toUTF8 ++ data
  push (push .empty (bytes32 data.size) ++ body) (bytes32 (checkSum body))

/-- Most bytes of a stored block. -/
def blockSize : Nat := 65535

/-- A stream of stored blocks. -/
def stream (data : ByteArray) : ByteArray :=
  let count := max 1 ((data.size + blockSize - 1) / blockSize)
  let blocks := (List.range count).foldl (fun out i =>
    let block := data.extract (i * blockSize) ((i + 1) * blockSize)
    let last : UInt8 := if i + 1 = count then 1 else 0
    push out (last :: (bytes16 block.size ++ bytes16 (blockSize - block.size))) ++ block)
    (push .empty [0x78, 0x01])
  push blocks (bytes32 (adler data))

/-- The bytes of a pixel. -/
def pixelBytes (p : Colour) : List UInt8 :=
  let p := stored p
  [p.r, p.g, p.b, p.a]

/-- A picture as a file. -/
def encode (rows : List (List Colour)) : ByteArray :=
  let width := (rows.head?.map List.length).getD 0
  let header := bytes32 width ++ bytes32 rows.length ++ [8, 6, 0, 0, 0]
  let pixels := rows.foldl (fun out row => row.foldl (fun out p => push out (pixelBytes p))
    (out.push 0)) .empty
  push .empty [0x89, 0x50, 0x4e, 0x47, 0x0d, 0x0a, 0x1a, 0x0a] ++
    chunk "IHDR" (push .empty header) ++ chunk "IDAT" (stream pixels) ++ chunk "IEND" .empty

end FieldGraph.Png

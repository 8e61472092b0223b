/-! The BLAKE3 hash with 256 bits of output. The input is cut into chunks of 1024 bytes and each
chunk into blocks of 64; the chunks' chaining values are joined by a binary tree whose left
subtrees are full. -/
namespace ResumableScript.Digest

abbrev Bytes := List UInt8

/-- Eight words that carry the hash from one block to the next. -/
abbrev Chaining := Vector UInt32 8

abbrev Block := Vector UInt32 16

def initial : Chaining :=
  #v[0x6A09E667, 0xBB67AE85, 0x3C6EF372, 0xA54FF53A, 0x510E527F, 0x9B05688C, 0x1F83D9AB, 0x5BE0CD19]

/-- What a block is: domain flags, added up. -/
abbrev Flags := UInt32

def chunkStart : Flags := 1
def chunkEnd : Flags := 2
def parentNode : Flags := 4
def rootNode : Flags := 8

def rotateRight (x : UInt32) (n : UInt32) : UInt32 := (x >>> n) ||| (x <<< (32 - n))

/-- Mixes two message words into one column or diagonal of the state. -/
def quarter (s : Block) (a b c d : Fin 16) (x y : UInt32) : Block :=
  let va := s[a] + s[b] + x
  let vd := rotateRight (s[d] ^^^ va) 16
  let vc := s[c] + vd
  let vb := rotateRight (s[b] ^^^ vc) 12
  let va := va + vb + y
  let vd := rotateRight (vd ^^^ va) 8
  let vc := vc + vd
  let vb := rotateRight (vb ^^^ vc) 7
  (((s.set a va).set b vb).set c vc).set d vd

def round (s m : Block) : Block :=
  let s := quarter s 0 4 8 12 m[0] m[1]
  let s := quarter s 1 5 9 13 m[2] m[3]
  let s := quarter s 2 6 10 14 m[4] m[5]
  let s := quarter s 3 7 11 15 m[6] m[7]
  let s := quarter s 0 5 10 15 m[8] m[9]
  let s := quarter s 1 6 11 12 m[10] m[11]
  let s := quarter s 2 7 8 13 m[12] m[13]
  quarter s 3 4 9 14 m[14] m[15]

def permute (m : Block) : Block :=
  #v[m[2], m[6], m[3], m[10], m[7], m[0], m[4], m[13], m[1], m[11], m[12], m[5], m[9], m[14], m[15],
    m[8]]

def rounds : Nat → Block → Block → Block
  | 0, s, _ => s
  | n + 1, s, m => rounds n (round s m) (permute m)

/-- Takes one block of `length` bytes into the chaining value. -/
def compress (cv : Chaining) (block : Block) (counter : UInt64) (length : UInt32) (flags : Flags) :
    Chaining :=
  let s : Block :=
    #v[cv[0], cv[1], cv[2], cv[3], cv[4], cv[5], cv[6], cv[7], initial[0], initial[1], initial[2],
      initial[3], counter.toUInt32, (counter >>> 32).toUInt32, length, flags]
  let s := rounds 7 s block
  #v[s[0] ^^^ s[8], s[1] ^^^ s[9], s[2] ^^^ s[10], s[3] ^^^ s[11], s[4] ^^^ s[12], s[5] ^^^ s[13],
    s[6] ^^^ s[14], s[7] ^^^ s[15]]

def word (a b c d : UInt8) : UInt32 :=
  a.toUInt32 ||| (b.toUInt32 <<< 8) ||| (c.toUInt32 <<< 16) ||| (d.toUInt32 <<< 24)

def wordBytes (w : UInt32) : Bytes :=
  [w.toUInt8, (w >>> 8).toUInt8, (w >>> 16).toUInt8, (w >>> 24).toUInt8]

def blockOf (bytes : Bytes) : Block :=
  let padded := (bytes ++ List.replicate (64 - bytes.length) 0).toArray
  Vector.ofFn fun (i : Fin 16) =>
    word (padded.getD (4 * i) 0) (padded.getD (4 * i + 1) 0) (padded.getD (4 * i + 2) 0)
      (padded.getD (4 * i + 3) 0)

/-- Cuts into parts of a size, the last of which may be shorter; nothing is one empty part. -/
def parts (size : Nat) (bytes : Bytes) : Nat → List Bytes
  | 0 => [bytes]
  | fuel + 1 =>
    if bytes.length ≤ size then [bytes] else bytes.take size :: parts size (bytes.drop size) fuel

/-- The chaining value of a chunk whose blocks follow those taken so far. -/
def chunkBlocks (counter : UInt64) (flags : Flags) (cv : Chaining) (start : Flags) :
    List Bytes → Chaining
  | [] => cv
  | [last] =>
    compress cv (blockOf last) counter (UInt32.ofNat last.length) (start ||| chunkEnd ||| flags)
  | block :: rest => chunkBlocks counter flags (compress cv (blockOf block) counter 64 start) 0 rest

def chunkValue (index : Nat) (chunk : Bytes) (flags : Flags) : Chaining :=
  chunkBlocks (UInt64.ofNat index) flags initial chunkStart (parts 64 chunk chunk.length)

def parentValue (left right : Chaining) (flags : Flags) : Chaining :=
  compress initial (left ++ right) 0 64 (parentNode ||| flags)

def subtree : Nat → Nat → Flags → List Bytes → Chaining
  | 0, _, _, _ => initial
  | _ + 1, index, flags, [chunk] => chunkValue index chunk flags
  | fuel + 1, index, flags, chunks =>
    let full := Nat.pow 2 (Nat.log2 (chunks.length - 1))
    parentValue (subtree fuel index 0 (chunks.take full))
      (subtree fuel (index + full) 0 (chunks.drop full)) flags

def blake3 (bytes : Bytes) : Bytes :=
  let chunks := parts 1024 bytes bytes.length
  (subtree chunks.length 0 rootNode chunks).toList.flatMap wordBytes

theorem length_blake3 (bytes : Bytes) : (blake3 bytes).length = 32 := by
  have h : ∀ ws : List UInt32, (ws.flatMap wordBytes).length = 4 * ws.length := by
    intro ws
    induction ws with
    | nil => rfl
    | cons w ws ih => simp [List.flatMap_cons, wordBytes, ih]; omega
  rw [blake3, h]
  simp

end ResumableScript.Digest

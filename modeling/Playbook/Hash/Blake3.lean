import Playbook.Text

/-!
# Playbook.Hash.Blake3

The BLAKE3 hash of a list of bytes, without key, 32 bytes long.

The bytes are cut into chunks of 1024, a chunk into blocks of 64.  A `Node` is
a compression that is not yet carried out, because the one at the root of the
tree gets a flag of its own.
-/

namespace Playbook.Blake3

/-- The chaining value between two compressions. -/
abbrev Chain := Vector UInt32 8

/-- A block of a message, or the state of a compression. -/
abbrev Block := Vector UInt32 16

/-! ## Constants -/

/-- The chaining value at the start. -/
def initial : Chain := #v[
  0x6A09E667, 0xBB67AE85, 0x3C6EF372, 0xA54FF53A, 0x510E527F, 0x9B05688C, 0x1F83D9AB, 0x5BE0CD19]

/-- Where each word of a block comes from in the next round. -/
def schedule : Vector (Fin 16) 16 := #v[2, 6, 3, 10, 7, 0, 4, 13, 1, 11, 12, 5, 9, 14, 15, 8]

/-- The flag of the first block of a chunk. -/
def chunkStart : UInt32 := 1

/-- The flag of the last block of a chunk. -/
def chunkEnd : UInt32 := 2

/-- The flag of a node above two others. -/
def parent : UInt32 := 4

/-- The flag of the node whose result is the hash. -/
def root : UInt32 := 8

/-- Bytes in a chunk. -/
def chunkSize : Nat := 1024

/-- Bytes in a block. -/
def blockSize : Nat := 64

/-! ## Compression -/

/-- Rotate to the right by `n` bits, `0 < n < 32`. -/
def rotate (x : UInt32) (n : UInt32) : UInt32 := (x >>> n) ||| (x <<< (32 - n))

/-- Mix two words of a message into four words of the state. -/
def mix (s : Block) (a b c d : Fin 16) (x y : UInt32) : Block :=
  let va := s[a] + s[b] + x
  let vd := rotate (s[d] ^^^ va) 16
  let vc := s[c] + vd
  let vb := rotate (s[b] ^^^ vc) 12
  let va := va + vb + y
  let vd := rotate (vd ^^^ va) 8
  let vc := vc + vd
  let vb := rotate (vb ^^^ vc) 7
  (((s.set a va).set b vb).set c vc).set d vd

/-- Mix the columns, then the diagonals. -/
def round (s m : Block) : Block :=
  let s := mix s 0 4 8 12 m[0] m[1]
  let s := mix s 1 5 9 13 m[2] m[3]
  let s := mix s 2 6 10 14 m[4] m[5]
  let s := mix s 3 7 11 15 m[6] m[7]
  let s := mix s 0 5 10 15 m[8] m[9]
  let s := mix s 1 6 11 12 m[10] m[11]
  let s := mix s 2 7 8 13 m[12] m[13]
  mix s 3 4 9 14 m[14] m[15]

/-- Reorder the words of a message for the next round. -/
def permute (m : Block) : Block := schedule.map fun i => m[i]

/-- A number of rounds, the message reordered between them. -/
def rounds : Nat → Block → Block → Block
  | 0, s, _ => s
  | n + 1, s, m => rounds n (round s m) (permute m)

/-- A compression that is not yet carried out. -/
structure Node where
  chain : Chain
  block : Block
  counter : Nat
  length : Nat
  flags : UInt32

/-- Carry out a compression, with more flags. -/
def Node.compress (n : Node) (flags : UInt32) : Chain :=
  let start : Block := #v[
    n.chain[0], n.chain[1], n.chain[2], n.chain[3], n.chain[4], n.chain[5], n.chain[6], n.chain[7],
    initial[0], initial[1], initial[2], initial[3],
    n.counter.toUInt32, (n.counter >>> 32).toUInt32, n.length.toUInt32, n.flags ||| flags]
  let s := rounds 7 start n.block
  Vector.ofFn fun i : Fin 8 => s[i.val] ^^^ s[i.val + 8]

/-! ## Chunks -/

/-- Cut a list into pieces of `n + 1`; the last piece may be shorter. -/
def pieces (n : Nat) (bytes : List UInt8) : List (List UInt8) :=
  match bytes with
  | [] => []
  | b :: rest => (b :: rest.take n) :: pieces n (rest.drop n)
termination_by bytes.length
decreasing_by simp only [List.length_drop, List.length_cons]; omega

/-- The words of a block; bytes that are missing at the end are zero. -/
def words (bytes : List UInt8) : Block :=
  let bs := bytes.toArray
  Vector.ofFn fun i : Fin 16 =>
    let byte (k : Nat) := (bs.getD (4 * i.val + k) 0).toUInt32
    byte 0 ||| (byte 1 <<< 8) ||| (byte 2 <<< 16) ||| (byte 3 <<< 24)

/-- The node of a chunk, given block by block. -/
def chunkNode (counter : Nat) (chain : Chain) (flags : UInt32) : List (List UInt8) → Node
  | [] => ⟨chain, words [], counter, 0, flags ||| chunkEnd⟩
  | [last] => ⟨chain, words last, counter, last.length, flags ||| chunkEnd⟩
  | b :: rest =>
    let next := Node.compress ⟨chain, words b, counter, b.length, flags⟩ 0
    chunkNode counter next 0 rest

/-- The nodes of all chunks.  Nothing at all is one empty chunk. -/
def leaves (bytes : List UInt8) : List Node :=
  let chunks := if bytes = [] then [[]] else pieces (chunkSize - 1) bytes
  chunks.zipIdx.map fun (chunk, i) => chunkNode i initial chunkStart (pieces (blockSize - 1) chunk)

/-! ## The tree -/

/-- The node above two nodes. -/
def join (l r : Node) : Node :=
  { chain := initial, block := l.compress 0 ++ r.compress 0, counter := 0, length := blockSize,
    flags := parent }

/-- Join neighbours; an odd node at the end goes up as it is. -/
def pairUp : List Node → List Node
  | l :: r :: rest => join l r :: pairUp rest
  | rest => rest

/-- Joining neighbours does not make a list longer. -/
theorem length_pairUp_le (ns : List Node) : (pairUp ns).length ≤ ns.length := by
  fun_induction pairUp ns with
  | case1 l r rest ih => simp; omega
  | case2 => simp

/-- The root of the tree above some nodes. -/
def rootOf : List Node → Option Node
  | [] => none
  | [n] => some n
  | l :: r :: rest => rootOf (pairUp (l :: r :: rest))
termination_by ns => ns.length
decreasing_by
  have := length_pairUp_le rest
  simp [pairUp]
  omega

/-- The bytes of a word, lowest first. -/
def wordBytes (w : UInt32) : List UInt8 :=
  [w.toUInt8, (w >>> 8).toUInt8, (w >>> 16).toUInt8, (w >>> 24).toUInt8]

/-- The hash of a list of bytes. -/
def hash (bytes : List UInt8) : List UInt8 :=
  (rootOf (leaves bytes)).elim [] fun n => (n.compress root).toList.flatMap wordBytes

/-- The hash of a text, in hexadecimal. -/
def hexOfText (s : String) : String :=
  String.ofList ((hash s.toUTF8.toList).flatMap Text.hexByte)

end Playbook.Blake3

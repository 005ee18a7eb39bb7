/-
Sums over octets: digests in words of 32 bits, and a cyclic redundancy check.

Each digest cuts its padded input into blocks of 64 octets, and folds a step
over them that mixes a block into some words.
-/
import BoardRig.Toolbox.Options

namespace BoardRig.Toolbox.Digest

open Shell State

/-! ## Blocks -/

/-- Octets of a number, the lowest first. -/
def octetsOf (count : Nat) (n : Nat) : Bytes :=
  (List.range count).map fun k => UInt8.ofNat (n / Nat.pow 256 k)

/-- Input with a mark and its length in bits behind it, in whole blocks. -/
def padded (lowFirst : Bool) (bs : Bytes) : Bytes :=
  let gap := (119 - bs.length % 64) % 64
  let length := octetsOf 8 (bs.length * 8)
  bs ++ 128 :: List.replicate gap 0 ++ if lowFirst then length else length.reverse

/-- Four octets as a word, the lowest first or the highest first. -/
def word (lowFirst : Bool) (bs : Bytes) : UInt32 :=
  (if lowFirst then bs.reverse else bs).foldl (fun w b => w * 256 + b.toUInt32) 0

def pieces {α : Type} (size : Nat) : (fuel : Nat) → List α → List (List α)
  | 0, _ => []
  | fuel + 1, xs => if xs.isEmpty then [] else xs.take size :: pieces size fuel (xs.drop size)

def blocks (lowFirst : Bool) (bs : Bytes) : List (Array UInt32) :=
  let all := padded lowFirst bs
  (pieces 64 (all.length / 64 + 1) all).map fun block =>
    ((pieces 4 17 block).map (word lowFirst)).toArray

/-- A word whose bits are moved in a circle. -/
def turned (n : Nat) (w : UInt32) : UInt32 :=
  (w <<< UInt32.ofNat n) ||| (w >>> UInt32.ofNat (32 - n))

def digits (b : UInt8) : Octets := Radix.hexDigits 2 b.toNat

def shown (lowFirst : Bool) (ws : List UInt32) : Octets :=
  ws.flatMap fun w =>
    let bs := octetsOf 4 w.toNat
    (if lowFirst then bs else bs.reverse).flatMap digits

/-! ## Digests -/

/-- The first bits behind the point of the root of a number: of the square root
if `cubic` does not hold, else of the cube root. -/
def rootBits (cubic : Bool) (n : Nat) : UInt32 :=
  let power := if cubic then 3 else 2
  let target := n * Nat.pow 2 (32 * power)
  let rec search : (fuel : Nat) → (low step : Nat) → Nat
    | 0, low, _ => low
    | fuel + 1, low, step =>
      search fuel (if Nat.pow (low + step) power ≤ target then low + step else low) (step / 2)
  UInt32.ofNat (search 45 0 (Nat.pow 2 44) % Nat.pow 2 32)

def primes (count : Nat) : List Nat :=
  ((List.range 400).filter fun n =>
    1 < n && (List.range n).all fun d => d < 2 || n % d != 0).take count

/-- The first words of the digests that have four or five. -/
def firstWords : List UInt32 := [0x67452301, 0xefcdab89, 0x98badcfe, 0x10325476, 0xc3d2e1f0]

/-- The constants of the steps of the digest with four words: what the sines of
whole numbers have behind the point. -/
def sineWords : Array UInt32 := #[
  0xd76aa478, 0xe8c7b756, 0x242070db, 0xc1bdceee, 0xf57c0faf, 0x4787c62a, 0xa8304613, 0xfd469501,
  0x698098d8, 0x8b44f7af, 0xffff5bb1, 0x895cd7be, 0x6b901122, 0xfd987193, 0xa679438e, 0x49b40821,
  0xf61e2562, 0xc040b340, 0x265e5a51, 0xe9b6c7aa, 0xd62f105d, 0x02441453, 0xd8a1e681, 0xe7d3fbc8,
  0x21e1cde6, 0xc33707d6, 0xf4d50d87, 0x455a14ed, 0xa9e3e905, 0xfcefa3f8, 0x676f02d9, 0x8d2a4c8a,
  0xfffa3942, 0x8771f681, 0x6d9d6122, 0xfde5380c, 0xa4beea44, 0x4bdecfa9, 0xf6bb4b60, 0xbebfbc70,
  0x289b7ec6, 0xeaa127fa, 0xd4ef3085, 0x04881d05, 0xd9d4d039, 0xe6db99e5, 0x1fa27cf8, 0xc4ac5665,
  0xf4292244, 0x432aff97, 0xab9423a7, 0xfc93a039, 0x655b59c3, 0x8f0ccc92, 0xffeff47d, 0x85845dd1,
  0x6fa87e4f, 0xfe2ce6e0, 0xa3014314, 0x4e0811a1, 0xf7537e82, 0xbd3af235, 0x2ad7d2bb, 0xeb86d391]

/-- How far words are moved in the steps of the digest with four words. -/
def turns : Array Nat := #[7, 12, 17, 22, 5, 9, 14, 20, 4, 11, 16, 23, 6, 10, 15, 21]

def mixFour (ws : List UInt32) (block : Array UInt32) : List UInt32 :=
  match ws with
  | [a₀, b₀, c₀, d₀] =>
    let (a, b, c, d) := (List.range 64).foldl (fun (a, b, c, d) n =>
      let (f, k) :=
        if n < 16 then ((b &&& c) ||| (~~~b &&& d), n)
        else if n < 32 then ((d &&& b) ||| (~~~d &&& c), (5 * n + 1) % 16)
        else if n < 48 then (b ^^^ c ^^^ d, (3 * n + 5) % 16)
        else (c ^^^ (b ||| ~~~d), (7 * n) % 16)
      let sum := f + a + sineWords.getD n 0 + block.getD k 0
      (d, b + turned (turns.getD (n / 16 * 4 + n % 4) 0) sum, b, c)) (a₀, b₀, c₀, d₀)
    [a₀ + a, b₀ + b, c₀ + c, d₀ + d]
  | ws => ws

def mixFive (ws : List UInt32) (block : Array UInt32) : List UInt32 :=
  let spread := (List.range 64).foldl (fun (w : Array UInt32) k =>
    let n := k + 16
    w.push (turned 1 (w.getD (n - 3) 0 ^^^ w.getD (n - 8) 0 ^^^ w.getD (n - 14) 0 ^^^
      w.getD (n - 16) 0))) block
  match ws with
  | [a₀, b₀, c₀, d₀, e₀] =>
    let (a, b, c, d, e) := (List.range 80).foldl (fun (a, b, c, d, e) n =>
      let (f, k) : UInt32 × UInt32 :=
        if n < 20 then ((b &&& c) ||| (~~~b &&& d), 0x5a827999)
        else if n < 40 then (b ^^^ c ^^^ d, 0x6ed9eba1)
        else if n < 60 then ((b &&& c) ||| (b &&& d) ||| (c &&& d), 0x8f1bbcdc)
        else (b ^^^ c ^^^ d, 0xca62c1d6)
      (turned 5 a + f + e + k + spread.getD n 0, a, turned 30 b, c, d)) (a₀, b₀, c₀, d₀, e₀)
    [a₀ + a, b₀ + b, c₀ + c, d₀ + d, e₀ + e]
  | ws => ws

def mixEight (keys : Array UInt32) (ws : List UInt32) (block : Array UInt32) : List UInt32 :=
  let back (n : Nat) (w : UInt32) : UInt32 := turned (32 - n) w
  let spread := (List.range 48).foldl (fun (w : Array UInt32) k =>
    let n := k + 16
    let x := w.getD (n - 15) 0
    let y := w.getD (n - 2) 0
    w.push (w.getD (n - 16) 0 + (back 7 x ^^^ back 18 x ^^^ (x >>> 3)) + w.getD (n - 7) 0 +
      (back 17 y ^^^ back 19 y ^^^ (y >>> 10)))) block
  let next := (List.range 64).foldl (fun (ws : List UInt32) n =>
    match ws with
    | [a, b, c, d, e, f, g, h] =>
      let s := h + (back 6 e ^^^ back 11 e ^^^ back 25 e) + ((e &&& f) ^^^ (~~~e &&& g)) +
        keys.getD n 0 + spread.getD n 0
      let t := (back 2 a ^^^ back 13 a ^^^ back 22 a) + ((a &&& b) ^^^ (a &&& c) ^^^ (b &&& c))
      [s + t, a, b, c, d + s, e, f, g]
    | ws => ws) ws
  List.zipWith (· + ·) ws next

def four (bs : Bytes) : Octets :=
  shown true ((blocks true bs).foldl mixFour (firstWords.take 4))

def five (bs : Bytes) : Octets :=
  shown false ((blocks false bs).foldl mixFive firstWords)

def eight (bs : Bytes) : Octets :=
  let keys := ((primes 64).map (rootBits true)).toArray
  shown false ((blocks false bs).foldl (mixEight keys) ((primes 8).map (rootBits false)))

/-! ## Programs -/

def program (digest : Bytes → Octets) (_ : Launcher) (args : List Octets) : Run Nat := do
  let g ← given [.plain 'b' "binary", .plain 't' "text", .plain 'c' "check", .long "tag" .nothing,
    .long "quiet" .nothing, .long "status" .nothing, .plain 'w' "warn", .plain 'z' "zero"] args
  let files := if g.operands.isEmpty then [['-']] else g.operands
  if g.has "check" then
    forEach files fun list => do
      match ← contentOf list with
      | .error e =>
        faultAbout list e
        return 1
      | .ok cs =>
        let results ← (Octets.bareLines cs).filterMapM fun line => do
          let sum := line.takeWhile fun c => c != ' '
          let file := line.drop (sum.length + 2)
          match ← contentOf file with
          | .ok cs =>
            let same := digest (Octets.toBytes cs) == sum.map Char.toLower
            if !g.has "status" && !(same && g.has "quiet") then
              putLine (file ++ if same then ": OK".toList else ": FAILED".toList)
            return some (same, true)
          | .error e =>
            faultAbout file e
            if !g.has "status" then putLine (file ++ ": FAILED open or read".toList)
            return some (false, false)
        let unread := (results.filter fun r => !r.2).length
        let wrong := (results.filter fun r => r.2 && !r.1).length
        if 0 < unread && !g.has "status" then
          fault (if unread = 1 then "WARNING: 1 listed file could not be read"
            else "WARNING: " ++ Nat.repr unread ++ " listed files could not be read")
        if 0 < wrong && !g.has "status" then
          fault (if wrong = 1 then "WARNING: 1 computed checksum did NOT match"
            else "WARNING: " ++ Nat.repr wrong ++ " computed checksums did NOT match")
        return if unread + wrong = 0 then 0 else 1
  else
    forEach files fun file => do
      match ← contentOf file with
      | .ok cs =>
        putLine (digest (Octets.toBytes cs) ++ [' ', if g.has "binary" then '*' else ' '] ++ file)
        return 0
      | .error e =>
        faultAbout file e
        return 1

/-- One octet more in a cyclic redundancy check. -/
def checkStep (sum : UInt32) (b : UInt8) : UInt32 :=
  (List.range 8).foldl (fun (w : UInt32) _ =>
    if w &&& 0x80000000 != 0 then (w <<< 1) ^^^ 0x04c11db7 else w <<< 1)
    (sum ^^^ (b.toUInt32 <<< 24))

/-- The cyclic redundancy check of octets with their number behind them. -/
def check (bs : Bytes) : UInt32 :=
  let rec lengthOctets : (fuel : Nat) → Nat → Bytes
    | 0, _ => []
    | fuel + 1, n => if n = 0 then [] else UInt8.ofNat n :: lengthOctets fuel (n / 256)
  ~~~((bs ++ lengthOctets 16 bs.length).foldl checkStep 0)

def cksum (_ : Launcher) (args : List Octets) : Run Nat := do
  let g ← given [] args
  let files := if g.operands.isEmpty then [['-']] else g.operands
  forEach files fun file => do
    match ← contentOf file with
    | .ok cs =>
      putLine (Octets.ofNat (check (Octets.toBytes cs)).toNat ++ ' ' :: Octets.ofNat cs.length ++
        if g.operands.isEmpty then [] else ' ' :: file)
      return 0
    | .error e =>
      faultAbout file e
      return 1

end BoardRig.Toolbox.Digest

/-!
Texts as bytes. A character takes one to four bytes; reading names the first byte sequence that
spells no character, or puts the replacement character in its place.
-/

namespace HstsPreload.Text.Utf8

def encodeChar (c : Char) : List UInt8 :=
  let n := c.toNat
  if n < 0x80 then [.ofNat n]
  else if n < 0x800 then [.ofNat (0xc0 + n / 64), .ofNat (0x80 + n % 64)]
  else if n < 0x10000 then
    [.ofNat (0xe0 + n / 4096), .ofNat (0x80 + n / 64 % 64), .ofNat (0x80 + n % 64)]
  else
    [.ofNat (0xf0 + n / 262144), .ofNat (0x80 + n / 4096 % 64), .ofNat (0x80 + n / 64 % 64),
      .ofNat (0x80 + n % 64)]

def encode (cs : List Char) : List UInt8 :=
  cs.flatMap encodeChar

/-- How many bytes a text takes. -/
def size (cs : List Char) : Nat :=
  cs.foldr (fun c n => c.utf8Size + n) 0

/-- Why bytes spell no text. -/
inductive Fault where
  /-- `length` bytes from `index` on begin no character. -/
  | invalid (length index : Nat)
  /-- The bytes end inside the character that starts at `index`. -/
  | incomplete (index : Nat)
  deriving Repr, DecidableEq

def Fault.message : Fault → String
  | .invalid length index => s!"invalid utf-8 sequence of {length} bytes from index {index}"
  | .incomplete index => s!"incomplete utf-8 byte sequence from index {index}"

/-- What the front of a byte sequence spells. -/
inductive Piece where
  | char (c : Char) (size : Nat)
  | invalid (length : Nat)
  | incomplete
  deriving Repr, DecidableEq

/-- The second byte that may follow `first` in a character of three or four bytes. -/
def secondRange (first : Nat) : Nat × Nat :=
  if first = 0xe0 then (0xa0, 0xbf)
  else if first = 0xed then (0x80, 0x9f)
  else if first = 0xf0 then (0x90, 0xbf)
  else if first = 0xf4 then (0x80, 0x8f)
  else (0x80, 0xbf)

/-- Whether a byte continues a character. -/
def isTail (b : Nat) : Bool :=
  decide (0x80 ≤ b ∧ b ≤ 0xbf)

def follows (first second : Nat) : Bool :=
  decide ((secondRange first).1 ≤ second ∧ second ≤ (secondRange first).2)

def threeBytes (a : Nat) : List UInt8 → Piece
  | [] => .incomplete
  | [b] => if follows a b.toNat then .incomplete else .invalid 1
  | b :: c :: _ =>
    if !follows a b.toNat then .invalid 1
    else if !isTail c.toNat then .invalid 2
    else .char (.ofNat ((a - 0xe0) * 4096 + (b.toNat - 0x80) * 64 + (c.toNat - 0x80))) 3

def fourBytes (a : Nat) : List UInt8 → Piece
  | [] => .incomplete
  | [b] => if follows a b.toNat then .incomplete else .invalid 1
  | [b, c] =>
    if !follows a b.toNat then .invalid 1
    else if !isTail c.toNat then .invalid 2
    else .incomplete
  | b :: c :: d :: _ =>
    if !follows a b.toNat then .invalid 1
    else if !isTail c.toNat then .invalid 2
    else if !isTail d.toNat then .invalid 3
    else
      .char (.ofNat ((a - 0xf0) * 262144 + (b.toNat - 0x80) * 4096 + (c.toNat - 0x80) * 64
        + (d.toNat - 0x80))) 4

/-- Reads the character at the front. -/
def piece (first : UInt8) (rest : List UInt8) : Piece :=
  let a := first.toNat
  if a < 0x80 then .char (.ofNat a) 1
  else if a < 0xc2 then .invalid 1
  else if a < 0xe0 then
    match rest with
    | [] => .incomplete
    | b :: _ =>
      if isTail b.toNat then .char (.ofNat ((a - 0xc0) * 64 + (b.toNat - 0x80))) 2
      else .invalid 1
  else if a < 0xf0 then threeBytes a rest
  else if a < 0xf5 then fourBytes a rest
  else .invalid 1

/-- Reads bytes that start at `index`, with fuel for as many characters. -/
def decodeFrom : Nat → Nat → List UInt8 → Except Fault (List Char)
  | 0, _, _ => .ok []
  | _, _, [] => .ok []
  | fuel + 1, index, first :: rest =>
    match piece first rest with
    | .char c n => (decodeFrom fuel (index + n) (rest.drop (n - 1))).map (c :: ·)
    | .invalid n => .error (.invalid n index)
    | .incomplete => .error (.incomplete index)

def decode (bytes : List UInt8) : Except Fault (List Char) :=
  decodeFrom bytes.length 0 bytes

/-- The character that stands where bytes spell none. -/
def replacement : Char :=
  .ofNat 0xfffd

/-- Reads bytes with the replacement character for each sequence that spells none. -/
def decodeLossyFrom : Nat → List UInt8 → List Char
  | 0, _ => []
  | _, [] => []
  | fuel + 1, first :: rest =>
    match piece first rest with
    | .char c n => c :: decodeLossyFrom fuel (rest.drop (n - 1))
    | .invalid n => replacement :: decodeLossyFrom fuel (rest.drop (n - 1))
    | .incomplete => [replacement]

/-- Reads bytes as a text, replacing what spells no character. -/
def decodeLossy (bytes : List UInt8) : List Char :=
  decodeLossyFrom bytes.length bytes

end HstsPreload.Text.Utf8

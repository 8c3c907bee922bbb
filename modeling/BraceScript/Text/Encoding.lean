/-!
# Encodings

A source file is bytes; its text depends on the encoding. Four encodings are known: UTF-8, UTF-8
with an optional byte-order mark in front, Latin-1 and ASCII. `Encoding.decode` reads the whole
of a file at once; `Encoding.decodeInBlocks` reads it block by block, which shows in the position
that an error names: it counts from the block, not from the file.
-/

namespace BraceScript.Text

/-- How the bytes of a file stand for characters. -/
inductive Encoding
  | utf8
  | utf8Marked
  | latin1
  | ascii
  deriving DecidableEq, Repr

/-- Why bytes are no text: `first` to `last` are the positions of the offending bytes. -/
structure DecodeError where
  codec : String
  byte : Nat
  first : Nat
  last : Nat
  reason : String
  deriving DecidableEq, Repr

namespace DecodeError

/-- The two hexadecimal digits of a byte. -/
def byteText (b : Nat) : String :=
  String.ofList [Nat.digitChar (b / 16 % 16), Nat.digitChar (b % 16)]

/-- The wording of a decoding error. -/
def message (e : DecodeError) : String :=
  let place :=
    if e.first = e.last then "byte 0x" ++ byteText e.byte ++ " in position " ++ toString e.first
    else "bytes in position " ++ toString e.first ++ "-" ++ toString e.last
  "'" ++ e.codec ++ "' codec can't decode " ++ place ++ ": " ++ e.reason

end DecodeError

/-- The byte-order mark in UTF-8. -/
def byteOrderMark : List UInt8 := [0xEF, 0xBB, 0xBF]

/-- What stands at the front of bytes that should be UTF-8. -/
inductive Utf8Front
  /-- A character of `width` bytes. -/
  | char (c : Char) (width : Nat)
  /-- The bytes end inside a character. -/
  | cut
  /-- `width` bytes that begin no character. -/
  | bad (width : Nat) (reason : String)

/-- Whether a byte continues a character in UTF-8. -/
def isContinuation (b : UInt8) : Bool := 0x80 ≤ b && b < 0xC0

/-- The front of bytes inside a character, of which `width` bytes stand for `value`. The next byte
has to be from `low` to `high`, and the last argument says how many bytes are to come. -/
def utf8Rest (value width low high : Nat) : Nat → List UInt8 → Utf8Front
  | 0, _ => .char (Char.ofNat value) width
  | _ + 1, [] => .cut
  | n + 1, b :: bs =>
    if low ≤ b.toNat && b.toNat ≤ high then
      utf8Rest (value * 64 + (b.toNat - 0x80)) (width + 1) 0x80 0xBF n bs
    else .bad width "invalid continuation byte"

/-- The front of bytes read as UTF-8; surrogates and overlong forms are no characters. -/
def utf8Front : List UInt8 → Utf8Front
  | [] => .cut
  | b :: bs =>
    let a := b.toNat
    if a < 0x80 then .char (Char.ofNat a) 1
    else if a < 0xC2 then .bad 1 "invalid start byte"
    else if a < 0xE0 then utf8Rest (a - 0xC0) 1 0x80 0xBF 1 bs
    else if a < 0xF0 then
      utf8Rest (a - 0xE0) 1 (if a = 0xE0 then 0xA0 else 0x80) (if a = 0xED then 0x9F else 0xBF) 2 bs
    else if a < 0xF5 then
      utf8Rest (a - 0xF0) 1 (if a = 0xF0 then 0x90 else 0x80) (if a = 0xF4 then 0x8F else 0xBF) 3 bs
    else .bad 1 "invalid start byte"

/-- Whether bytes are the first two of a surrogate, with nothing behind them. -/
def isHalfSurrogate : List UInt8 → Bool
  | [a, b] => a == 0xED && isContinuation b
  | _ => false

/-- Reads UTF-8 from position `pos` on; the last argument bounds the number of characters. Gives
the characters in reverse and the bytes of a character that is cut off at the end. If `more` bytes
may follow, half of a surrogate counts as cut off too. -/
def utf8Loop (more : Bool) (pos : Nat) (done : List Char) (bytes : List UInt8) :
    Nat → Except DecodeError (List Char × List UInt8)
  | 0 => .ok (done, bytes)
  | n + 1 =>
    match bytes with
    | [] => .ok (done, [])
    | b :: _ =>
      match utf8Front bytes with
      | .char c w => utf8Loop more (pos + w) (c :: done) (bytes.drop w) n
      | .cut => .ok (done, bytes)
      | .bad w reason =>
        if more && isHalfSurrogate bytes then .ok (done, bytes)
        else .error ⟨"utf-8", b.toNat, pos, pos + w - 1, reason⟩

/-- Reads one block of UTF-8: its characters, and the bytes of a character cut off at its end. -/
def utf8Block (more : Bool) (bytes : List UInt8) : Except DecodeError (List Char × List UInt8) :=
  (utf8Loop more 0 [] bytes bytes.length).map fun r => (r.1.reverse, r.2)

/-- The error for a character that is cut off at the end of a file. -/
def cutError (bytes : List UInt8) (pos : Nat) : DecodeError :=
  ⟨"utf-8", (bytes.headD 0).toNat, pos, pos + bytes.length - 1, "unexpected end of data"⟩

/-- Reads bytes that are UTF-8 from the first to the last. -/
def decodeUtf8 (bytes : List UInt8) : Except DecodeError (List Char) :=
  match utf8Block false bytes with
  | .error e => .error e
  | .ok (cs, []) => .ok cs
  | .ok (_, rest) => .error (cutError rest (bytes.length - rest.length))

/-- The bytes of characters in UTF-8. -/
def encodeUtf8 (cs : List Char) : List UInt8 := cs.flatMap String.utf8EncodeChar

/-- Reads ASCII from position `pos` on. -/
def decodeAscii (pos : Nat) : List UInt8 → Except DecodeError (List Char)
  | [] => .ok []
  | b :: bs =>
    if b < 0x80 then (decodeAscii (pos + 1) bs).map (Char.ofNat b.toNat :: ·)
    else .error ⟨"ascii", b.toNat, pos, pos, "ordinal not in range(128)"⟩

/-- Bytes without a byte-order mark in front; a beginning of a mark that is the whole of the
bytes counts as one. -/
def dropMark (bytes : List UInt8) : List UInt8 :=
  if bytes.length < 3 then
    if bytes.isPrefixOf byteOrderMark then [] else bytes
  else if bytes.take 3 = byteOrderMark then bytes.drop 3 else bytes

/-- How many bytes are read at a time when a file is read line by line. -/
def blockSize : Nat := 8192

/-- Bytes in blocks of `blockSize`; the last argument bounds the number of blocks. -/
def blocks (bytes : List UInt8) : Nat → List (List UInt8)
  | 0 => []
  | n + 1 =>
    if bytes.isEmpty then [] else bytes.take blockSize :: blocks (bytes.drop blockSize) n

/-- Reads UTF-8 block by block, where `held` are bytes left over from the block before. -/
def decodeUtf8Blocks (held : List UInt8) : List (List UInt8) → Except DecodeError (List Char)
  | [] => decodeUtf8 held
  | b :: bs =>
    match utf8Block true (held ++ b) with
    | .error e => .error e
    | .ok (cs, rest) => (decodeUtf8Blocks rest bs).map (cs ++ ·)

/-- Reads ASCII block by block. -/
def decodeAsciiBlocks : List (List UInt8) → Except DecodeError (List Char)
  | [] => .ok []
  | b :: bs =>
    match decodeAscii 0 b with
    | .error e => .error e
    | .ok cs => (decodeAsciiBlocks bs).map (cs ++ ·)

namespace Encoding

/-- The characters of a whole file. -/
def decode (enc : Encoding) (bytes : List UInt8) : Except DecodeError (List Char) :=
  match enc with
  | .utf8 => decodeUtf8 bytes
  | .utf8Marked => decodeUtf8 (dropMark bytes)
  | .latin1 => .ok (bytes.map fun b => Char.ofNat b.toNat)
  | .ascii => decodeAscii 0 bytes

/-- The characters of a file that is read block by block. -/
def decodeInBlocks (enc : Encoding) (bytes : List UInt8) : Except DecodeError (List Char) :=
  let bs := blocks bytes bytes.length
  match enc, bs with
  | .utf8, bs => decodeUtf8Blocks [] bs
  | .utf8Marked, [] => .ok []
  | .utf8Marked, b :: bs => decodeUtf8Blocks [] (dropMark b :: bs)
  | .latin1, _ => .ok (bytes.map fun b => Char.ofNat b.toNat)
  | .ascii, bs => decodeAsciiBlocks bs

/-- The bytes that a written text becomes. A mark goes in front of a marked text unless nothing
is written. Characters that the encoding cannot express do not arise: every text that is written
was read in the same encoding. -/
def encode (enc : Encoding) (cs : List Char) : List UInt8 :=
  match enc with
  | .utf8 => encodeUtf8 cs
  | .utf8Marked => if cs.isEmpty then [] else byteOrderMark ++ encodeUtf8 cs
  | .latin1 => cs.map fun c => c.toNat.toUInt8
  | .ascii => cs.map fun c => c.toNat.toUInt8

/-- The encoding of a given name; case, hyphens and underscores do not matter. -/
def ofName? (name : String) : Option Encoding :=
  let plain := (name.toList.map Char.toLower).map fun c => if c = '-' || c = ' ' then '_' else c
  let key := String.ofList plain
  if ["utf_8", "utf8", "u8", "utf", "cp65001"].contains key then some .utf8
  else if ["utf_8_sig", "utf8_sig"].contains key then some .utf8Marked
  else if ["latin_1", "latin1", "latin", "l1", "iso_8859_1", "iso8859_1", "8859", "cp819",
      "iso8859"].contains key then some .latin1
  else if ["ascii", "us_ascii", "646"].contains key then some .ascii
  else none

end Encoding

end BraceScript.Text

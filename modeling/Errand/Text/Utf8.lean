/-!
# Errand — texts and bytes

UTF-8 in both directions. Reading goes byte by byte through a `Decoder`, whose
state is the sequence begun and not yet ended. Bytes that belong to no
character are marked one **maximal subpart** at a time: a sequence that breaks
off is one mark, and reading goes on at the byte that broke it.

* `encode`       — the bytes of a text.
* `decodeLossy`  — the text of any bytes, each mark written as U+FFFD.
* `decode?`      — the text of bytes without a mark.
-/

namespace Errand.Text

/-- A run of bytes, as files and pipes hold them. -/
abbrev Bytes := List UInt8

/-- The bytes of a text. -/
def encode (s : String) : Bytes := s.toUTF8.toList

-- ---------------------------------------------------------------------------
-- Reading byte by byte
-- ---------------------------------------------------------------------------

/-- A sequence begun: its value so far, the bytes it lacks, and the range of the next one. -/
structure Pending where
  value : Nat
  missing : Nat
  low : Nat
  high : Nat

/-- What a byte means at the start of a character. -/
inductive Lead where
  | char (c : Char)
  | start (p : Pending)
  | stray

/-- The well-formed first bytes, with the range that the second byte must keep to. -/
def lead (b : Nat) : Lead :=
  if b < 0x80 then .char (Char.ofNat b)
  else if b < 0xC2 then .stray
  else if b < 0xE0 then .start ⟨b % 0x20, 1, 0x80, 0xBF⟩
  else if b < 0xF0 then
    .start ⟨b % 0x10, 2, if b = 0xE0 then 0xA0 else 0x80, if b = 0xED then 0x9F else 0xBF⟩
  else if b < 0xF5 then
    .start ⟨b % 0x08, 3, if b = 0xF0 then 0x90 else 0x80, if b = 0xF4 then 0x8F else 0xBF⟩
  else .stray

/-- A reader of UTF-8: the characters and marks so far, latest first, and an open sequence. -/
structure Decoder where
  read : List (Option Char)
  pending : Option Pending

/-- A reader that has seen nothing. -/
def Decoder.empty : Decoder := ⟨[], none⟩

/-- Reads a byte that starts a character or is stray. -/
def Decoder.begin (d : List (Option Char)) (b : Nat) : Decoder :=
  match lead b with
  | .char c => ⟨some c :: d, none⟩
  | .start p => ⟨d, some p⟩
  | .stray => ⟨none :: d, none⟩

/-- Reads one byte. -/
def Decoder.step (d : Decoder) (byte : UInt8) : Decoder :=
  let b := byte.toNat
  match d.pending with
  | none => Decoder.begin d.read b
  | some p =>
    if p.low ≤ b ∧ b ≤ p.high then
      let value := p.value * 0x40 + b % 0x40
      if p.missing ≤ 1 then ⟨some (Char.ofNat value) :: d.read, none⟩
      else ⟨d.read, some ⟨value, p.missing - 1, 0x80, 0xBF⟩⟩
    else Decoder.begin (none :: d.read) b

/-- The characters and marks in order; a sequence left open is a mark. -/
def Decoder.finish (d : Decoder) : List (Option Char) :=
  match d.pending with
  | none => d.read.reverse
  | some _ => (none :: d.read).reverse

/-- The characters of some bytes, with a mark for every maximal subpart that is none. -/
def decodeMarked (bytes : Bytes) : List (Option Char) :=
  (bytes.foldl Decoder.step Decoder.empty).finish

/-- U+FFFD, which stands for bytes that are no character. -/
def replacement : Char := Char.ofNat 0xFFFD

/-- The text of any bytes. -/
def decodeLossy (bytes : Bytes) : String :=
  String.ofList ((decodeMarked bytes).map fun mark => mark.getD replacement)

/-- The text of well-formed bytes. -/
def decode? (bytes : Bytes) : Option String :=
  let marks := decodeMarked bytes
  if marks.all Option.isSome then some (String.ofList (marks.filterMap id)) else none

end Errand.Text

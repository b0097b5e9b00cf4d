/-!
# Bytes as text

Reading bytes as UTF-8, strictly or with a replacement character for each broken
sequence, and cutting bytes into lines.  A broken sequence is the longest start of
a well-formed one, or a single byte that starts none.
-/

namespace CloudLift.Text.Utf8

/-- What the first byte of a sequence says about the rest: how many bytes follow,
the range of the next one, and the bits that the first byte contributes. -/
structure Lead where
  following : Nat
  low : UInt8
  high : UInt8
  bits : Nat
  deriving DecidableEq

/-- The ranges exclude overlong forms, surrogates and numbers past the last code point. -/
def Lead.ofByte? (b : UInt8) : Option Lead :=
  let n := b.toNat
  if n < 0x80 then some ⟨0, 0, 0, n⟩
  else if n < 0xC2 then none
  else if n < 0xE0 then some ⟨1, 0x80, 0xBF, n - 0xC0⟩
  else if n = 0xE0 then some ⟨2, 0xA0, 0xBF, 0⟩
  else if n = 0xED then some ⟨2, 0x80, 0x9F, 0x0D⟩
  else if n < 0xF0 then some ⟨2, 0x80, 0xBF, n - 0xE0⟩
  else if n = 0xF0 then some ⟨3, 0x90, 0xBF, 0⟩
  else if n < 0xF4 then some ⟨3, 0x80, 0xBF, n - 0xF0⟩
  else if n = 0xF4 then some ⟨3, 0x80, 0x8F, 4⟩
  else none

/-- Reads the bytes that follow a lead: the number they complete, if they are all
there, and the bytes that were not used. -/
def follow (low high : UInt8) (bits : Nat) :
    Nat → List UInt8 → Option Nat × List UInt8
  | 0, bytes => (some bits, bytes)
  | _ + 1, [] => (none, [])
  | n + 1, b :: bytes =>
    if low ≤ b && b ≤ high then
      follow 0x80 0xBF (bits * 64 + (b.toNat - 0x80)) n bytes
    else
      (none, b :: bytes)

theorem length_follow_le (low high : UInt8) (bits n : Nat) (bytes : List UInt8) :
    (follow low high bits n bytes).2.length ≤ bytes.length := by
  induction n generalizing low high bits bytes with
  | zero => simp [follow]
  | succ n ih =>
    cases bytes with
    | nil => simp [follow]
    | cons b bytes =>
      rw [follow]
      split
      · exact Nat.le_succ_of_le (ih _ _ _ _)
      · exact Nat.le_refl _

/-- The first character of a sequence that starts with `b`, `none` if it is broken,
and the bytes after it. -/
def first (b : UInt8) (bytes : List UInt8) : Option Char × List UInt8 :=
  match Lead.ofByte? b with
  | none => (none, bytes)
  | some lead =>
    let (n?, rest) := follow lead.low lead.high lead.bits lead.following bytes
    (n?.map Char.ofNat, rest)

theorem length_first_le (b : UInt8) (bytes : List UInt8) :
    (first b bytes).2.length ≤ bytes.length := by
  unfold first
  split
  · exact Nat.le_refl _
  · exact length_follow_le _ _ _ _ _

/-- The characters of the bytes, with `none` for each broken sequence. -/
def chars : List UInt8 → List (Option Char)
  | [] => []
  | b :: bytes => (first b bytes).1 :: chars (first b bytes).2
  termination_by bytes => bytes.length
  decreasing_by exact Nat.lt_succ_of_le (length_first_le b bytes)

/-- The text, if no sequence is broken. -/
def decode? (bytes : List UInt8) : Option String :=
  ((chars bytes).mapM id).map String.ofList

/-- The text, with U+FFFD for each broken sequence. -/
def decodeLossy (bytes : List UInt8) : String :=
  String.ofList ((chars bytes).map fun c? => c?.getD '\uFFFD')

def encode (s : String) : List UInt8 :=
  s.toUTF8.toList

def lineFeed : UInt8 := 10

def carriageReturn : UInt8 := 13

/-- What stands before the first line feed, and what follows it if there is one. -/
def cutLine : List UInt8 → List UInt8 × Option (List UInt8)
  | [] => ([], none)
  | b :: bytes =>
    if b = lineFeed then
      ([], some bytes)
    else
      let (line, rest?) := cutLine bytes
      (b :: line, rest?)

theorem length_cutLine_lt {bytes line rest : List UInt8}
    (h : cutLine bytes = (line, some rest)) : rest.length < bytes.length := by
  induction bytes generalizing line with
  | nil => simp [cutLine] at h
  | cons b bytes ih =>
    unfold cutLine at h
    split at h
    · simp only [Prod.mk.injEq, Option.some.injEq] at h
      simp [← h.2]
    · simp only [Prod.mk.injEq] at h
      exact Nat.lt_succ_of_lt (ih (Prod.ext rfl h.2))

def dropFinalReturn (line : List UInt8) : List UInt8 :=
  if line.getLast? = some carriageReturn then line.dropLast else line

/-- The lines of the bytes.  A line ends at a line feed, which with a carriage return
before it does not belong to the line; the bytes after the last line feed are a
line if there are any. -/
def lines (bytes : List UInt8) : List (List UInt8) :=
  match _h : cutLine bytes with
  | ([], none) => []
  | (line, none) => [line]
  | (line, some rest) => dropFinalReturn line :: lines rest
  termination_by bytes.length
  decreasing_by exact length_cutLine_lt _h

end CloudLift.Text.Utf8
